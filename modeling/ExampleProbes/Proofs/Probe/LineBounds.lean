import ExampleProbes.Proofs.Probe.Triggers

/-!
Which line numbers the annotations of a document have. A probe is shown where it is written
or at its trigger line, and so never after that, which is a line of the document. No line is
read under number 0, so that no place of an example is refused.
-/
namespace ExampleProbes

namespace Annotations
variable {uri languageId : String} {number : Nat} {line : List Char} {rest : List (List Char)}

theorem triggerFrom?_lt {trigger : Nat} {lines : List (List Char)}
    (found : triggerFrom? number lines = some trigger) : trigger < number + lines.length := by
  induction lines generalizing number with
  | nil => cases found
  | cons line rest ih =>
    simp only [triggerFrom?] at found
    split at found
    · obtain rfl := Option.some.inj found
      simp
    · have later := ih found
      have step : nextLine number ≤ number + 1 := Nat.min_le_left _ _
      simp only [List.length_cons]
      omega

/-- A probe as line `number` can declare it: it is shown there or where it is triggered. -/
structure Written (number : Nat) (p : Probe) : Prop where
  type : p.type = .probe ∨ p.type = .assertion
  shown : p.reportLine = number ∨ p.reportLine = p.triggerLine

theorem written_of_probeFinding {tag : Tag} {trigger : Nat} {p : Probe}
    (made : probeFinding tag number trigger = .probe p) : Written number p := by
  unfold probeFinding at made
  split at made
  · obtain rfl := Finding.probe.inj made
    exact ⟨Or.inl rfl, Or.inl rfl⟩
  · obtain rfl := Finding.probe.inj made
    exact ⟨Or.inl rfl, Or.inr rfl⟩

theorem written_of_assertionFinding {tag : Tag} {trigger : Nat} {p : Probe}
    (made : assertionFinding tag number trigger = .probe p) : Written number p := by
  unfold assertionFinding at made
  split at made
  · obtain rfl := Finding.probe.inj made
    exact ⟨Or.inr rfl, Or.inr rfl⟩
  · split at made
    · obtain rfl := Finding.probe.inj made
      exact ⟨Or.inr rfl, Or.inl rfl⟩
    · cases made

theorem written_of_finding {p : Probe}
    (answer : finding uri languageId number line rest = .ok (.probe p)) : Written number p := by
  generalize same : Finding.probe p = found at answer
  cases declaration_of_finding answer with
  | @ofExample tag signature _ _ _ =>
    rcases location_of_exampleFinding tag ⟨uri, languageId, number⟩ signature with
      nothing | ⟨e, own, _⟩
    · cases same.trans nothing
    · cases same.trans own
  | ofProbe => exact written_of_probeFinding same.symm
  | ofAssertion => exact written_of_assertionFinding same.symm
  | ofCode => cases same

/-- A probe that is scanned among lines from `first` on, as many as `count`. -/
structure Scanned (first count : Nat) (p : Probe) : Prop where
  type : p.type = .probe ∨ p.type = .assertion
  numbered : first ≤ p.reportLine
  shown : p.reportLine ≤ p.triggerLine
  inside : p.triggerLine < first + count

theorem scanned_from (uri languageId : String) (numbered : number ≤ maxLine)
    (lines : List (List Char)) :
    ∀ p ∈ (ofLinesFrom uri languageId number lines).probes, Scanned number lines.length p := by
  induction lines generalizing number with
  | nil => simp [ofLinesFrom]
  | cons line rest ih =>
    -- Numbers stop at the largest, so that the next one is no more than one larger.
    have lower := le_nextLine numbered
    have upper : nextLine number ≤ number + 1 := Nat.min_le_left _ _
    have behind : ∀ p ∈ (ofLinesFrom uri languageId (nextLine number) rest).probes,
        Scanned number (line :: rest).length p := by
      intro p member
      obtain ⟨type, written, shown, inside⟩ := ih (nextLine_le_maxLine number) p member
      exact ⟨type, by omega, shown, by rw [List.length_cons]; omega⟩
    unfold ofLinesFrom
    split
    · simp
    · simp
    · rename_i found answer
      rcases finding_cases answer with rfl | ⟨e, rfl, _⟩ | ⟨p, rfl, _, next⟩
      · exact behind
      · exact behind
      · refine List.forall_mem_cons.mpr ⟨?_, behind⟩
        have after := le_of_triggerFrom? (nextLine_le_maxLine number) next
        have inside := triggerFrom?_lt next
        obtain ⟨type, shown⟩ := written_of_finding answer
        exact ⟨type, by omega, by omega, by rw [List.length_cons]; omega⟩

theorem line_of_examples (uri languageId : String) (numbered : number ≤ maxLine)
    (lines : List (List Char)) :
    ∀ e ∈ (ofLinesFrom uri languageId number lines).examples, number ≤ e.location.line := by
  induction lines generalizing number with
  | nil => simp [ofLinesFrom]
  | cons line rest ih =>
    have behind : ∀ e ∈ (ofLinesFrom uri languageId (nextLine number) rest).examples,
        number ≤ e.location.line := fun e member =>
      Nat.le_trans (le_nextLine numbered) (ih (nextLine_le_maxLine number) e member)
    unfold ofLinesFrom
    split
    · simp
    · simp
    · rename_i found answer
      rcases finding_cases answer with rfl | ⟨e, rfl, located⟩ | ⟨p, rfl, _⟩
      · exact behind
      · exact List.forall_mem_cons.mpr ⟨Nat.le_of_eq (congrArg Location.line located).symm, behind⟩
      · exact behind

theorem add_misuse (found : Finding) (later : Annotations) :
    (add found later).misuse = later.misuse := by
  cases found <;> rfl

/-- No place is refused from line 1 on. -/
theorem misuse_from (uri languageId : String) (numbered : 1 ≤ number) (lines : List (List Char)) :
    (ofLinesFrom uri languageId number lines).misuse = none := by
  induction lines generalizing number with
  | nil => rfl
  | cons line rest ih =>
    unfold ofLinesFrom
    split
    · rfl
    · rename_i misuse answer
      obtain ⟨halt, same, _⟩ := finding_haltsAt numbered uri languageId line rest _ answer
      cases same
    · rw [add_misuse]
      exact ih (one_le_nextLine number)

section Document
variable (document : Document)

theorem ofDocument_scanned :
    ∀ p ∈ (ofDocument document).probes, Scanned 1 document.lines.length p :=
  scanned_from document.uri document.languageId (by decide : 1 ≤ maxLine) document.lines

theorem ofDocument_example_line : ∀ e ∈ (ofDocument document).examples, 1 ≤ e.location.line :=
  line_of_examples document.uri document.languageId (by decide : 1 ≤ maxLine) document.lines

theorem ofDocument_misuse : (ofDocument document).misuse = none :=
  misuse_from document.uri document.languageId (Nat.le_refl 1) document.lines

end Document

end Annotations
end ExampleProbes
