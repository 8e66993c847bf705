import Mathlib.Data.List.Pairwise
import ExampleProbes.Probe.Annotations
import ExampleProbes.Proofs.Attempts

/-!
Where the annotations of a document stand. A probe is triggered no earlier than the next
trigger line, so that trigger lines never decrease from one probe to the next; and every
example is located in the document that it was found in. Reading stops nowhere but at a line
that cannot be read.
-/
namespace ExampleProbes.Annotations

theorem le_nextLine {number : Nat} (numbered : number ≤ maxLine) : number ≤ nextLine number := by
  unfold nextLine
  omega

theorem nextLine_le_maxLine (number : Nat) : nextLine number ≤ maxLine := by
  unfold nextLine
  omega

theorem le_of_triggerFrom? {number trigger : Nat} {lines : List (List Char)}
    (numbered : number ≤ maxLine) (found : triggerFrom? number lines = some trigger) :
    number ≤ trigger := by
  induction lines generalizing number with
  | nil => cases found
  | cons line rest ih =>
    simp only [triggerFrom?] at found
    split at found
    · obtain rfl := Option.some.inj found
      exact Nat.le_refl _
    · have later := ih (nextLine_le_maxLine number) found
      have step := le_nextLine numbered
      omega

theorem tagAt_eq_ok {number : Nat} {marker : Marker} {line : List Char} {tag : Tag}
    (found : tagAt number marker line = .ok tag) : Tag.read marker line = .ok tag := by
  unfold tagAt at found
  split at found
  · rename_i read here
    obtain rfl := Except.ok.inj found
    exact here
  · cases found

theorem signatureAt_eq_ok {number : Nat} {rest : List (List Char)} {signature : Signature}
    (found : signatureAt number rest = .ok signature) : signature? rest = some signature := by
  unfold signatureAt at found
  split at found
  · rename_i next here
    obtain rfl := Except.ok.inj found
    exact here
  · cases found

theorem triggerAt_eq_ok {number trigger : Nat} {rest : List (List Char)}
    (found : triggerAt number rest = .ok trigger) :
    triggerFrom? (nextLine number) rest = some trigger := by
  unfold triggerAt at found
  split at found
  · rename_i next here
    obtain rfl := Except.ok.inj found
    exact here
  · cases found

theorem placeAt_eq_ok {uri languageId : String} {number : Nat} {place : Location}
    (found : placeAt uri languageId number = .ok place) : place = ⟨uri, languageId, number⟩ := by
  unfold placeAt Location.of? at found
  by_cases zero : number = 0
  · simp [zero] at found
  · simpa [zero, eq_comm] using found

theorem isTrigger_of_isOn {line : List Char}
    (marked : Marker.probe.isOn line ∨ Marker.assertion.isOn line) : isTrigger line = false := by
  unfold isTrigger
  rcases marked with marked | marked <;> simp [marked]

theorem location_of_exampleFinding (tag : Tag) (location : Location) (signature : Signature) :
    exampleFinding tag location signature = .nothing ∨
      ∃ e : Example, exampleFinding tag location signature = .example e ∧ e.location = location := by
  unfold exampleFinding Example.bind?
  cases Example.argumentsOf? tag signature.parameters with
  | none => exact Or.inl rfl
  | some values => exact Or.inr ⟨_, rfl, rfl⟩

theorem triggerLine_of_probeFinding (tag : Tag) (number trigger : Nat) :
    ∃ p : Probe, probeFinding tag number trigger = .probe p ∧ p.triggerLine = trigger := by
  unfold probeFinding
  split
  · exact ⟨_, rfl, rfl⟩
  · exact ⟨_, rfl, rfl⟩

theorem triggerLine_of_assertionFinding (tag : Tag) (number trigger : Nat) :
    assertionFinding tag number trigger = .nothing ∨
      ∃ p : Probe, assertionFinding tag number trigger = .probe p ∧ p.triggerLine = trigger := by
  unfold assertionFinding
  split
  · exact Or.inr ⟨_, rfl, rfl⟩
  · split
    · exact Or.inr ⟨_, rfl, rfl⟩
    · exact Or.inl rfl

/-- How a line that can be read is read: by the first of the markers that it carries, with what
    its tag says and what the lines below it hold. -/
inductive Declaration (uri languageId : String) (number : Nat) (line : List Char)
    (rest : List (List Char)) : Finding → Prop where
  | ofExample {tag : Tag} {signature : Signature} (marked : Marker.example.isOn line = true)
      (written : Tag.read .example line = .ok tag) (below : signature? rest = some signature) :
      Declaration uri languageId number line rest
        (exampleFinding tag ⟨uri, languageId, number⟩ signature)
  | ofProbe {tag : Tag} {trigger : Nat} (unlike : Marker.example.isOn line = false)
      (marked : Marker.probe.isOn line = true) (written : Tag.read .probe line = .ok tag)
      (below : triggerFrom? (nextLine number) rest = some trigger) :
      Declaration uri languageId number line rest (probeFinding tag number trigger)
  | ofAssertion {tag : Tag} {trigger : Nat} (unlike : Marker.example.isOn line = false)
      (unprobed : Marker.probe.isOn line = false) (marked : Marker.assertion.isOn line = true)
      (written : Tag.read .assertion line = .ok tag)
      (below : triggerFrom? (nextLine number) rest = some trigger) :
      Declaration uri languageId number line rest (assertionFinding tag number trigger)
  | ofCode (unlike : Marker.example.isOn line = false) (unprobed : Marker.probe.isOn line = false)
      (unasserted : Marker.assertion.isOn line = false) :
      Declaration uri languageId number line rest .nothing

section Declared
variable {uri languageId : String} {number : Nat} {line : List Char} {rest : List (List Char)}
  {found : Finding}

theorem declaration_of_finding (answer : finding uri languageId number line rest = .ok found) :
    Declaration uri languageId number line rest found := by
  unfold finding at answer
  split at answer
  · rename_i marked
    obtain ⟨tag, written, answer⟩ := bind_eq_ok answer
    obtain ⟨signature, below, answer⟩ := bind_eq_ok answer
    obtain ⟨place, here, answer⟩ := bind_eq_ok answer
    obtain rfl := placeAt_eq_ok here
    obtain rfl := Except.ok.inj answer
    exact .ofExample marked (tagAt_eq_ok written) (signatureAt_eq_ok below)
  · rename_i unlike
    rw [Bool.not_eq_true] at unlike
    split at answer
    · rename_i marked
      obtain ⟨tag, written, answer⟩ := bind_eq_ok answer
      obtain ⟨trigger, below, answer⟩ := bind_eq_ok answer
      obtain rfl := Except.ok.inj answer
      exact .ofProbe unlike marked (tagAt_eq_ok written) (triggerAt_eq_ok below)
    · rename_i unprobed
      rw [Bool.not_eq_true] at unprobed
      split at answer
      · rename_i marked
        obtain ⟨tag, written, answer⟩ := bind_eq_ok answer
        obtain ⟨trigger, below, answer⟩ := bind_eq_ok answer
        obtain rfl := Except.ok.inj answer
        exact .ofAssertion unlike unprobed marked (tagAt_eq_ok written) (triggerAt_eq_ok below)
      · rename_i unasserted
        rw [Bool.not_eq_true] at unasserted
        obtain rfl := Except.ok.inj answer
        exact .ofCode unlike unprobed unasserted

/-- All that a line can declare: nothing, an example of its own line, or a probe of the next
    trigger line, and then it triggers nothing itself. -/
theorem finding_cases (answer : finding uri languageId number line rest = .ok found) :
    found = .nothing ∨ (∃ e : Example, found = .example e ∧ e.location = ⟨uri, languageId, number⟩) ∨
      ∃ p : Probe, found = .probe p ∧ isTrigger line = false ∧
        triggerFrom? (nextLine number) rest = some p.triggerLine := by
  cases declaration_of_finding answer with
  | @ofExample tag signature _ _ _ =>
    rcases location_of_exampleFinding tag ⟨uri, languageId, number⟩ signature with nothing | own
    · exact Or.inl nothing
    · exact Or.inr (Or.inl own)
  | @ofProbe tag trigger _ marked _ below =>
    obtain ⟨p, same, rfl⟩ := triggerLine_of_probeFinding tag number trigger
    exact Or.inr (Or.inr ⟨p, same, isTrigger_of_isOn (Or.inl marked), below⟩)
  | @ofAssertion tag trigger _ _ marked _ below =>
    rcases triggerLine_of_assertionFinding tag number trigger with nothing | ⟨p, same, rfl⟩
    · exact Or.inl nothing
    · exact Or.inr (Or.inr ⟨p, same, isTrigger_of_isOn (Or.inr marked), below⟩)
  | ofCode => exact Or.inl rfl

end Declared

/-- An answer that is either given or halts at line `number`. -/
def HaltsAt {α : Type} (number : Nat) (answer : Except Stop α) : Prop :=
  ∀ stop, answer = .error stop → ∃ halt : Halt, stop = .halt halt ∧ halt.line = number

section Halts
variable {number : Nat}

theorem haltsAt_ok {α : Type} (answer : α) : HaltsAt number (.ok answer) := by
  intro stop stops
  cases stops

theorem HaltsAt.bind {α β : Type} {first : Except Stop α} {next : α → Except Stop β}
    (early : HaltsAt number first) (late : ∀ a, HaltsAt number (next a)) :
    HaltsAt number (first >>= next) := by
  intro stop stops
  cases first with
  | error own =>
    obtain rfl : own = stop := Except.error.inj stops
    exact early own rfl
  | ok a => exact late a stop stops

theorem tagAt_haltsAt (marker : Marker) (line : List Char) :
    HaltsAt number (tagAt number marker line) := by
  unfold tagAt
  intro stop stops
  split at stops
  · cases stops
  · exact ⟨_, (Except.error.inj stops).symm, rfl⟩

theorem signatureAt_haltsAt (rest : List (List Char)) :
    HaltsAt number (signatureAt number rest) := by
  unfold signatureAt
  intro stop stops
  split at stops
  · cases stops
  · exact ⟨_, (Except.error.inj stops).symm, rfl⟩

theorem triggerAt_haltsAt (rest : List (List Char)) : HaltsAt number (triggerAt number rest) := by
  unfold triggerAt
  intro stop stops
  split at stops
  · cases stops
  · exact ⟨_, (Except.error.inj stops).symm, rfl⟩

variable (numbered : 1 ≤ number)
include numbered

theorem placeAt_haltsAt (uri languageId : String) :
    HaltsAt number (placeAt uri languageId number) := by
  rw [placeAt_of_le numbered]
  exact haltsAt_ok _

/-- A line that cannot be read is the line of the halt; its place is never refused. -/
theorem finding_haltsAt (uri languageId : String) (line : List Char) (rest : List (List Char)) :
    HaltsAt number (finding uri languageId number line rest) := by
  unfold finding
  split
  · apply (tagAt_haltsAt .example line).bind
    intro tag
    apply (signatureAt_haltsAt rest).bind
    intro signature
    exact (placeAt_haltsAt numbered uri languageId).bind fun _ => haltsAt_ok _
  · split
    · apply (tagAt_haltsAt .probe line).bind
      intro tag
      exact (triggerAt_haltsAt rest).bind fun _ => haltsAt_ok _
    · split
      · apply (tagAt_haltsAt .assertion line).bind
        intro tag
        exact (triggerAt_haltsAt rest).bind fun _ => haltsAt_ok _
      · exact haltsAt_ok _

end Halts

theorem location_of_mem_examples (uri languageId : String) {number : Nat}
    {lines : List (List Char)} {e : Example}
    (member : e ∈ (ofLinesFrom uri languageId number lines).examples) :
    e.location.uri = uri ∧ e.location.languageId = languageId := by
  induction lines generalizing number with
  | nil => cases member
  | cons line rest ih =>
    unfold ofLinesFrom at member
    split at member
    · cases member
    · cases member
    · rename_i found answer
      rcases finding_cases answer with rfl | ⟨own, rfl, located⟩ | ⟨p, rfl, _⟩
      · exact ih member
      · rcases List.mem_cons.mp member with rfl | behind
        · simp [located]
        · exact ih behind
      · exact ih member

/-- Every probe is triggered at the first trigger line from `number` on, or after it. -/
theorem triggers_from (uri languageId : String) {number : Nat} (numbered : number ≤ maxLine)
    (lines : List (List Char)) :
    (∀ p ∈ (ofLinesFrom uri languageId number lines).probes,
      ∃ first, triggerFrom? number lines = some first ∧ first ≤ p.triggerLine) ∧
    (ofLinesFrom uri languageId number lines).probes.Pairwise
      fun p q => p.triggerLine ≤ q.triggerLine := by
  induction lines generalizing number with
  | nil => exact ⟨by simp [ofLinesFrom], by simp [ofLinesFrom]⟩
  | cons line rest ih =>
    obtain ⟨later, ordered⟩ := ih (nextLine_le_maxLine number)
    have behind : ∀ p ∈ (ofLinesFrom uri languageId (nextLine number) rest).probes,
        ∃ first, triggerFrom? number (line :: rest) = some first ∧ first ≤ p.triggerLine := by
      intro p member
      obtain ⟨next, found, before⟩ := later p member
      by_cases trigger : isTrigger line
      · have step := le_nextLine numbered
        have after := le_of_triggerFrom? (nextLine_le_maxLine number) found
        exact ⟨number, by simp [triggerFrom?, trigger], by omega⟩
      · exact ⟨next, by simp [triggerFrom?, trigger, found], before⟩
    unfold ofLinesFrom
    split
    · exact ⟨by simp, by simp⟩
    · exact ⟨by simp, by simp⟩
    · rename_i found answer
      rcases finding_cases answer with rfl | ⟨e, rfl, _⟩ | ⟨p, rfl, plain, next⟩
      · exact ⟨behind, ordered⟩
      · exact ⟨behind, ordered⟩
      · have own : triggerFrom? number (line :: rest) = some p.triggerLine := by
          simp [triggerFrom?, plain, next]
        constructor
        · intro q member
          rcases List.mem_cons.mp member with rfl | other
          · exact ⟨_, own, Nat.le_refl _⟩
          · exact behind q other
        · refine List.pairwise_cons.mpr ⟨?_, ordered⟩
          intro q member
          obtain ⟨first, found, before⟩ := later q member
          rw [next] at found
          obtain rfl := Option.some.inj found
          exact before

theorem ofDocument_triggers (document : Document) :
    (∀ p ∈ (ofDocument document).probes, 1 ≤ p.triggerLine) ∧
      (ofDocument document).probes.Pairwise fun p q => p.triggerLine ≤ q.triggerLine := by
  have one : 1 ≤ maxLine := by decide
  obtain ⟨triggers, ordered⟩ := triggers_from document.uri document.languageId one document.lines
  refine ⟨?_, ordered⟩
  intro p member
  obtain ⟨first, found, before⟩ := triggers p member
  have after := le_of_triggerFrom? one found
  omega

end ExampleProbes.Annotations
