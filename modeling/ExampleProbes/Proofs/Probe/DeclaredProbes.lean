import ExampleProbes.Proofs.Probe.PassedLines

/-!
The probes of a document and the lines that declare them. They stand one for one and in order,
and each probe is triggered at the first line below its own that is neither blank nor marked as
a probe or an assertion. Two probes therefore share their trigger line just if there is no such
line between them.
-/
namespace ExampleProbes.Annotations

/-- Whether the tag of an assertion says what to check. -/
def saysCheck (line : List Char) : Bool :=
  match Tag.read .assertion line with
  | .ok tag => (tag.attribute? ":expected").isSome || (tag.attribute? ":expression").isSome
  | .error _ => false

def declaresProbe (line : List Char) : Bool :=
  !Marker.example.isOn line &&
    (Marker.probe.isOn line || (Marker.assertion.isOn line && saysCheck line))

/-- The marker that a line which declares a probe is read by. -/
def asking (line : List Char) : Marker := if Marker.probe.isOn line then .probe else .assertion

/-- The probe that a tag on line `number` describes, and the line at which it is shown. -/
inductive Describes (tag : Tag) (number trigger : Nat) : Marker → Probe → Nat → Prop where
  | statement (plain : tag.attribute? ":expression" = none) :
      Describes tag number trigger .probe (.statement (tag.attribute? ":example") trigger) trigger
  | expression {source : String} (asked : tag.attribute? ":expression" = some source) :
      Describes tag number trigger .probe
        (.expression (tag.attribute? ":example") trigger number source) number
  | expected {source : String} (asked : tag.attribute? ":expected" = some source) :
      Describes tag number trigger .assertion
        (.assertion (tag.attribute? ":example") trigger trigger source true) trigger
  | condition {source : String} (unexpected : tag.attribute? ":expected" = none)
      (asked : tag.attribute? ":expression" = some source) :
      Describes tag number trigger .assertion
        (.assertion (tag.attribute? ":example") trigger number source false) number

section Document
variable (document : Document)

def EligibleAt (m : Nat) : Prop :=
  ∃ line, document.line? m = some line ∧ Text.isBlank line = false ∧
    Marker.probe.isOn line = false ∧ Marker.assertion.isOn line = false

/-- Line `t` is the first eligible one below line `n`. -/
structure NextEligible (n t : Nat) : Prop where
  below : n < t
  inside : t ≤ document.lines.length
  eligible : EligibleAt document t
  between : ∀ m, n < m → m < t → ∀ line ∈ document.line? m,
    Text.isBlank line ∨ Marker.probe.isOn line ∨ Marker.assertion.isOn line

structure DeclaredOn (n : Nat) (p : Probe) : Prop where
  next : NextEligible document n p.triggerLine
  described : ∃ line tag, document.line? n = some line ∧ declaresProbe line ∧
    Tag.read (asking line) line = .ok tag ∧
    Describes tag n p.triggerLine (asking line) p p.reportLine

/-- The lines that declare a probe, of those before the line of the halt if there is one. -/
def probeLines (halt : Option Halt) : List Nat :=
  (passedFrom document 0 halt).filter fun n => (document.line? n).any declaresProbe

/-- How a probe and one that is declared after it stand to each other. -/
structure InOrder (first second : Nat × Probe) : Prop where
  later : first.1 < second.1
  triggers : first.2.triggerLine ≤ second.2.triggerLine
  shared : first.2.triggerLine = second.2.triggerLine ↔
    ∀ m, first.1 < m → m < second.1 → ¬ EligibleAt document m

end Document

section Triggers
variable {document : Document}

theorem isTrigger_iff {line : List Char} :
    isTrigger line = true ↔ Text.isBlank line = false ∧ Marker.probe.isOn line = false ∧
      Marker.assertion.isOn line = false := by
  simp [isTrigger, and_assoc]

theorem idle_of_not_trigger {line : List Char} (idle : ¬ isTrigger line = true) :
    Text.isBlank line ∨ Marker.probe.isOn line ∨ Marker.assertion.isOn line := by
  rw [isTrigger_iff] at idle
  by_contra none
  simp only [not_or, Bool.not_eq_true] at none
  exact idle none

theorem not_eligibleAt_of_idle {m : Nat} (idle : ∀ line ∈ document.line? m,
    Text.isBlank line ∨ Marker.probe.isOn line ∨ Marker.assertion.isOn line) :
    ¬ EligibleAt document m := by
  rintro ⟨line, here, unblank, unprobed, unasserted⟩
  rcases idle line here with blank | probed | asserted
  · simp [unblank] at blank
  · simp [unprobed] at probed
  · simp [unasserted] at asserted

/-- The search for a trigger line ends at the first eligible line. -/
theorem nextEligible_of_triggerFrom? (numbered : document.lines.length ≤ maxLine) {k t : Nat}
    {lines : List (List Char)} (rest : document.lines.drop k = lines)
    (found : triggerFrom? (nextLine k) lines = some t) : NextEligible document k t := by
  induction lines generalizing k with
  | nil => cases found
  | cons line more ih =>
    have inside := lt_of_drop rest
    have here := line?_of_drop rest
    rw [nextLine_of_lt (by omega)] at found
    simp only [triggerFrom?] at found
    split at found
    · rename_i trigger
      obtain rfl := Option.some.inj found
      refine ⟨Nat.lt_succ_self k, by omega, ⟨line, here, isTrigger_iff.mp trigger⟩, ?_⟩
      intro m after before
      omega
    · rename_i idle
      have later := ih (drop_of_drop rest) found
      refine ⟨Nat.lt_of_succ_lt later.below, later.inside, later.eligible, ?_⟩
      intro m after before other there
      by_cases first : m = k + 1
      · rw [first, here] at there
        obtain rfl := Option.some.inj there
        exact idle_of_not_trigger idle
      · exact later.between m (by omega) before other there

/-- Of two lines of which the second is not eligible, the first has its trigger line no later,
    and the two have it in common just if none is eligible between them. -/
theorem NextEligible.compare {n m t u : Nat} (first : NextEligible document n t)
    (second : NextEligible document m u) (later : n < m) (idle : ¬ EligibleAt document m) :
    t ≤ u ∧ (t = u ↔ ∀ i, n < i → i < m → ¬ EligibleAt document i) := by
  have passed : ∀ i, n < i → i < t → ¬ EligibleAt document i := fun i after before =>
    not_eligibleAt_of_idle (first.between i after before)
  have ordered : t ≤ u := by
    by_contra above
    have below := second.below
    exact passed u (by omega) (by omega) second.eligible
  refine ⟨ordered, ?_, ?_⟩
  · intro same i after before
    have below := second.below
    exact passed i after (by omega)
  · intro none
    by_contra apart
    -- The first trigger line stands before `m`, at it or behind it, before the second one.
    rcases Nat.lt_trichotomy t m with before | rfl | behind
    · exact none t first.below before first.eligible
    · exact idle first.eligible
    · exact not_eligibleAt_of_idle (second.between t behind (by omega)) first.eligible

end Triggers

section Declared
variable {uri languageId : String} {number : Nat} {line : List Char} {rest : List (List Char)}
  {found : Finding}

theorem probe?_of_exampleFinding (tag : Tag) (location : Location) (signature : Signature) :
    (exampleFinding tag location signature).probe? = none := by
  rcases location_of_exampleFinding tag location signature with nothing | ⟨e, own, _⟩
  · rw [nothing]
    rfl
  · rw [own]
    rfl

theorem describes_of_probeFinding {tag : Tag} {trigger : Nat} {p : Probe}
    (made : (probeFinding tag number trigger).probe? = some p) :
    p.triggerLine = trigger ∧ Describes tag number trigger .probe p p.reportLine := by
  unfold probeFinding at made
  split at made
  · rename_i source asked
    obtain rfl := Option.some.inj made
    exact ⟨rfl, .expression asked⟩
  · rename_i plain
    obtain rfl := Option.some.inj made
    exact ⟨rfl, .statement plain⟩

theorem describes_of_assertionFinding {tag : Tag} {trigger : Nat} {p : Probe}
    (made : (assertionFinding tag number trigger).probe? = some p) :
    p.triggerLine = trigger ∧ Describes tag number trigger .assertion p p.reportLine := by
  unfold assertionFinding at made
  split at made
  · rename_i source asked
    obtain rfl := Option.some.inj made
    exact ⟨rfl, .expected asked⟩
  · rename_i unexpected
    split at made
    · rename_i source asked
      obtain rfl := Option.some.inj made
      exact ⟨rfl, .condition unexpected asked⟩
    · cases made

theorem isSome_probe?_of_assertionFinding (tag : Tag) (trigger : Nat) :
    (assertionFinding tag number trigger).probe?.isSome =
      ((tag.attribute? ":expected").isSome || (tag.attribute? ":expression").isSome) := by
  unfold assertionFinding
  cases tag.attribute? ":expected" with
  | some source => rfl
  | none => cases tag.attribute? ":expression" <;> rfl

/-- Of the lines that can be read, those that declare a probe are the ones that yield one. -/
theorem Declaration.declaresProbe_eq
    (declared : Declaration uri languageId number line rest found) :
    declaresProbe line = found.probe?.isSome := by
  unfold declaresProbe
  cases declared with
  | ofExample marked => simp [marked, probe?_of_exampleFinding]
  | @ofProbe tag trigger unlike marked =>
    obtain ⟨p, same, _⟩ := triggerLine_of_probeFinding tag number trigger
    simp [unlike, marked, same, Finding.probe?]
  | ofAssertion unlike unprobed marked written =>
    simp [unlike, unprobed, marked, saysCheck, written, isSome_probe?_of_assertionFinding]
  | ofCode unlike unprobed unasserted => simp [unprobed, unasserted, Finding.probe?]

theorem Declaration.describes {p : Probe}
    (declared : Declaration uri languageId number line rest found) (own : found.probe? = some p) :
    triggerFrom? (nextLine number) rest = some p.triggerLine ∧
      ∃ tag, Tag.read (asking line) line = .ok tag ∧
        Describes tag number p.triggerLine (asking line) p p.reportLine := by
  cases declared with
  | ofExample => simp [probe?_of_exampleFinding] at own
  | ofProbe unlike marked written below =>
    obtain ⟨rfl, described⟩ := describes_of_probeFinding own
    rw [asking, if_pos marked]
    exact ⟨below, _, written, described⟩
  | ofAssertion unlike unprobed marked written below =>
    obtain ⟨rfl, described⟩ := describes_of_assertionFinding own
    rw [asking, if_neg (by simp [unprobed])]
    exact ⟨below, _, written, described⟩
  | ofCode => cases own

end Declared

section Scan
variable {document : Document}

theorem declaredOn_of_findingAt (numbered : document.lines.length ≤ maxLine) {n : Nat}
    {found : Finding} {p : Probe} (answered : findingAt document n = some found)
    (own : found.probe? = some p) : DeclaredOn document n p := by
  obtain ⟨line, here, declared⟩ := declaration_of_findingAt answered
  have declares : declaresProbe line = true := by
    rw [declared.declaresProbe_eq, own]
    rfl
  obtain ⟨trigger, tag, written, described⟩ := declared.describes own
  exact ⟨nextEligible_of_triggerFrom? numbered rfl trigger,
    line, tag, here, declares, written, described⟩

theorem DeclaredOn.not_eligibleAt {n : Nat} {p : Probe} (declared : DeclaredOn document n p) :
    ¬ EligibleAt document n := by
  obtain ⟨line, tag, here, declares, _⟩ := declared.described
  refine not_eligibleAt_of_idle ?_
  intro other there
  rw [here] at there
  obtain rfl := Option.some.inj there
  simp only [declaresProbe, Bool.and_eq_true, Bool.or_eq_true] at declares
  rcases declares.2 with probed | ⟨asserted, _⟩
  · exact Or.inr (Or.inl probed)
  · exact Or.inr (Or.inr asserted)

theorem DeclaredOn.inOrder {first second : Nat × Probe}
    (early : DeclaredOn document first.1 first.2) (late : DeclaredOn document second.1 second.2)
    (later : first.1 < second.1) : InOrder document first second := by
  obtain ⟨triggers, shared⟩ := early.next.compare late.next later late.not_eligibleAt
  exact ⟨later, triggers, shared⟩

/-- The probes stand one for one and in order for the lines before the halt that declare one. -/
theorem ofDocument_probes (numbered : document.lines.length ≤ maxLine) :
    List.Forall₂ (DeclaredOn document) (probeLines document (ofDocument document).halt)
      (ofDocument document).probes := by
  have read := ofDocument_read numbered
  rw [read.probes]
  apply forall₂_filter_filterMap
  · intro n passed
    obtain ⟨found, answered⟩ := Option.isSome_iff_exists.mp (read.answered n passed)
    obtain ⟨line, here, declared⟩ := declaration_of_findingAt answered
    rw [here, answered, Option.any_some, Option.bind_some, declared.declaresProbe_eq]
  · intro n passed p made
    obtain ⟨found, answered, own⟩ := Option.bind_eq_some_iff.mp made
    exact declaredOn_of_findingAt numbered answered own

end Scan

/-- Each line before the halt that declares a probe has its own, triggered at the first eligible
    line below; the trigger lines never decrease, and two are the same just if no eligible line
    stands between the two that declare them. -/
theorem probes_of_declaring_lines (document : Document)
    (numbered : document.lines.length ≤ maxLine) :
    List.Forall₂ (DeclaredOn document) (probeLines document (ofDocument document).halt)
        (ofDocument document).probes ∧
      ((probeLines document (ofDocument document).halt).zip (ofDocument document).probes).Pairwise
        (InOrder document) := by
  have declared := ofDocument_probes numbered
  refine ⟨declared, ?_⟩
  obtain ⟨sameLength, each⟩ := List.forall₂_iff_zip.mp declared
  have lines : (((probeLines document (ofDocument document).halt).zip
      (ofDocument document).probes).map Prod.fst).Pairwise (· < ·) := by
    rw [List.map_fst_zip (Nat.le_of_eq sameLength)]
    exact (passedFrom_sorted 0 _).filter _
  refine List.Pairwise.imp_of_mem ?_ (List.pairwise_map.mp lines)
  intro first second early late later
  exact (each early).inOrder (each late) later

section Parts

/-- Probes above a trigger line that they share, an assertion that says no check, an expected
    value shown at the line of an example, a condition, and a tag that is not closed. -/
def askedSource : Document where
  uri := "a"
  languageId := "toy"
  text := String.intercalate "\n"
    ["<Probe :example=\"a\"/>", "<Assertion/>", "<Probe :expression=\"x\"/>", "", "x",
      "<Assertion :expected=\"2\"/>", "<Example n=\"1\"/>", "f(n)",
      "<Assertion :expression=\"n\"/>", "n", "<Probe"]

def askedProbes : List Probe :=
  [.statement (some "a") 5, .expression none 5 3 "x", .assertion none 7 7 "2" true,
    .assertion none 10 9 "n" false]

theorem probes_of_askedSource :
    askedSource.lines.length ≤ maxLine ∧
      (ofDocument askedSource).halt.map Halt.line = some 11 ∧
      (ofDocument askedSource).probes = askedProbes ∧
      List.Forall₂ (DeclaredOn askedSource) [1, 3, 6, 9] askedProbes ∧
      (List.zip [1, 3, 6, 9] askedProbes).Pairwise (InOrder askedSource) := by
  have scanned : askedSource.lines.length ≤ maxLine ∧
      (ofDocument askedSource).halt.map Halt.line = some 11 ∧
      (ofDocument askedSource).probes = askedProbes ∧
      probeLines askedSource (ofDocument askedSource).halt = [1, 3, 6, 9] := by decide +kernel
  obtain ⟨few, halted, probes, lines⟩ := scanned
  have declared := probes_of_declaring_lines askedSource few
  rw [lines, probes] at declared
  exact ⟨few, halted, probes, declared⟩

end Parts
end ExampleProbes.Annotations
