import ExampleProbes.Proofs.Probe.PassedLines

/-!
What the annotations of a document read of its code. Where a line carries no marker, they depend
on whether it is blank and, right below an example, on the signature that it shows; so editing
code in any other way leaves the examples, the probes and the halt as they are.
-/
namespace ExampleProbes.Annotations

def unmarked (line : List Char) : Bool :=
  !Marker.example.isOn line && !Marker.probe.isOn line && !Marker.assertion.isOn line

/-- Code in the place of code, alike in what annotations read of it. -/
structure SameCode (belowExample : Bool) (before after : List Char) : Prop where
  unmarkedBefore : unmarked before = true
  unmarkedAfter : unmarked after = true
  blank : Text.isBlank before = Text.isBlank after
  signature : belowExample = true → Signature.find? before = Signature.find? after

instance (belowExample : Bool) (before after : List Char) :
    Decidable (SameCode belowExample before after) :=
  decidable_of_iff
    (unmarked before = true ∧ unmarked after = true ∧ Text.isBlank before = Text.isBlank after ∧
      (belowExample = true → Signature.find? before = Signature.find? after))
    ⟨fun ⟨before, after, blank, signature⟩ => ⟨before, after, blank, signature⟩,
      fun ⟨before, after, blank, signature⟩ => ⟨before, after, blank, signature⟩⟩

def SameMarkup (belowExample : Bool) (before after : List Char) : Prop :=
  before = after ∨ SameCode belowExample before after

instance (belowExample : Bool) (before after : List Char) :
    Decidable (SameMarkup belowExample before after) :=
  inferInstanceAs (Decidable (_ ∨ _))

/-- The second document is the first with some of its code edited, line by line. -/
structure CodeEdit (left right : Document) : Prop where
  uri : left.uri = right.uri
  languageId : left.languageId = right.languageId
  count : left.lines.length = right.lines.length
  each : ∀ n, ∀ before ∈ left.line? n, ∀ after ∈ right.line? n,
    SameMarkup (exampleAt left (n - 1)) before after

/-- The lines below a line, with whether that one is marked as an example. -/
inductive EditedBelow : Bool → List (List Char) → List (List Char) → Prop where
  | nil {belowExample : Bool} : EditedBelow belowExample [] []
  | cons {belowExample : Bool} {left right : List Char} {lefts rights : List (List Char)}
      (line : SameMarkup belowExample left right)
      (below : EditedBelow (Marker.example.isOn left) lefts rights) :
      EditedBelow belowExample (left :: lefts) (right :: rights)

section Code
variable {line : List Char}

theorem unmarked_iff : unmarked line = true ↔ Marker.example.isOn line = false ∧
    Marker.probe.isOn line = false ∧ Marker.assertion.isOn line = false := by
  simp [unmarked, and_assoc]

theorem isTrigger_of_unmarked (code : unmarked line = true) :
    isTrigger line = !Text.isBlank line := by
  obtain ⟨_, unprobed, unasserted⟩ := unmarked_iff.mp code
  simp [isTrigger, unprobed, unasserted]

theorem finding_of_unmarked (uri languageId : String) (number : Nat) (rest : List (List Char))
    (code : unmarked line = true) : finding uri languageId number line rest = .ok .nothing := by
  obtain ⟨unlike, unprobed, unasserted⟩ := unmarked_iff.mp code
  simp only [finding, unlike, unprobed, unasserted]
  rfl

end Code

section Edited
variable {belowExample : Bool} {left right : List Char} {lefts rights : List (List Char)}

theorem SameMarkup.isTrigger_eq (same : SameMarkup belowExample left right) :
    isTrigger left = isTrigger right := by
  rcases same with rfl | code
  · rfl
  · rw [isTrigger_of_unmarked code.unmarkedBefore, isTrigger_of_unmarked code.unmarkedAfter, code.blank]

theorem SameMarkup.isOn_eq (same : SameMarkup belowExample left right) :
    Marker.example.isOn left = Marker.example.isOn right := by
  rcases same with rfl | code
  · rfl
  · rw [(unmarked_iff.mp code.unmarkedBefore).1, (unmarked_iff.mp code.unmarkedAfter).1]

theorem SameMarkup.find?_eq (same : SameMarkup true left right) :
    Signature.find? left = Signature.find? right := by
  rcases same with rfl | code
  · rfl
  · exact code.signature rfl

/-- Below an example, the signature is looked for through lines that are all below one. -/
theorem EditedBelow.signature?_eq (edited : EditedBelow true lefts rights) :
    signature? lefts = signature? rights := by
  generalize below : true = belowExample at edited
  induction edited with
  | nil => rfl
  | cons line _ ih =>
    subst below
    simp only [signature?, ← line.isOn_eq]
    split
    · rename_i marked
      exact ih marked.symm
    · exact line.find?_eq

theorem EditedBelow.triggerFrom?_eq (edited : EditedBelow belowExample lefts rights)
    (number : Nat) : triggerFrom? number lefts = triggerFrom? number rights := by
  induction edited generalizing number with
  | nil => rfl
  | cons line _ ih => rw [triggerFrom?, triggerFrom?, line.isTrigger_eq, ih]

theorem EditedBelow.triggerAt_eq (edited : EditedBelow belowExample lefts rights) (number : Nat) :
    triggerAt number lefts = triggerAt number rights := by
  unfold triggerAt
  rw [edited.triggerFrom?_eq]

theorem EditedBelow.signatureAt_eq (edited : EditedBelow true lefts rights) (number : Nat) :
    signatureAt number lefts = signatureAt number rights := by
  unfold signatureAt
  rw [edited.signature?_eq]

/-- What a line declares stays the same when it is edited together with the lines below it. -/
theorem finding_of_edited (uri languageId : String) (number : Nat)
    (same : SameMarkup belowExample left right)
    (below : EditedBelow (Marker.example.isOn left) lefts rights) :
    finding uri languageId number left lefts = finding uri languageId number right rights := by
  rcases same with rfl | code
  · unfold finding
    split
    · rename_i marked
      rw [marked] at below
      rw [below.signatureAt_eq]
    · rw [below.triggerAt_eq]
  · rw [finding_of_unmarked _ _ _ _ code.unmarkedBefore, finding_of_unmarked _ _ _ _ code.unmarkedAfter]

theorem ofLinesFrom_of_edited (uri languageId : String)
    (edited : EditedBelow belowExample lefts rights) (number : Nat) :
    ofLinesFrom uri languageId number lefts = ofLinesFrom uri languageId number rights := by
  induction edited generalizing number with
  | nil => rfl
  | cons line below ih =>
    rw [ofLinesFrom, ofLinesFrom, finding_of_edited uri languageId number line below, ih]

end Edited

theorem CodeEdit.editedBelow {left right : Document} (edit : CodeEdit left right) {k : Nat}
    {lefts rights : List (List Char)} (before : left.lines.drop k = lefts)
    (after : right.lines.drop k = rights) : EditedBelow (exampleAt left k) lefts rights := by
  have count : lefts.length = rights.length := by
    rw [← before, ← after, List.length_drop, List.length_drop, edit.count]
  induction lefts generalizing k rights with
  | nil =>
    obtain rfl := List.length_eq_zero_iff.mp count.symm
    exact .nil
  | cons line more ih =>
    cases rights with
    | nil => cases count
    | cons other others =>
      have here := line?_of_drop before
      have own : exampleAt left (k + 1) = Marker.example.isOn line := by
        rw [exampleAt, here]
        rfl
      have below := ih (drop_of_drop before) (drop_of_drop after) (Nat.succ.inj count)
      rw [own] at below
      exact .cons (edit.each (k + 1) line here other (line?_of_drop after)) below

/-- Editing the code of a document leaves all that it declares as it is, the halt included. -/
theorem ofDocument_of_codeEdit {left right : Document} (edit : CodeEdit left right) :
    ofDocument left = ofDocument right := by
  unfold ofDocument ofLines
  rw [← edit.uri, ← edit.languageId]
  have edited : EditedBelow (exampleAt left 0) left.lines right.lines := edit.editedBelow rfl rfl
  exact ofLinesFrom_of_edited left.uri left.languageId edited 1

section Parts

def countdown (lines : List String) : Document where
  uri := "a"
  languageId := "toy"
  text := String.intercalate "\n" lines

/-- An example of a function that is declared below it, a probe, and an assertion that nothing
    follows. -/
def countdownBefore : Document := countdown
  ["<Example n=\"3\"/>", "function count(n)", "<Probe :expression=\"n\"/>", "", "while (n > 0)",
    "<Assertion :expected=\"0\"/>"]

/-- The same with its code in another style. -/
def countdownAfter : Document := countdown
  ["<Example n=\"3\"/>", "let count(n) =", "<Probe :expression=\"n\"/>", "  ", "loop(n)",
    "<Assertion :expected=\"0\"/>"]

theorem annotations_of_countdown :
    CodeEdit countdownBefore countdownAfter ∧
      ofDocument countdownBefore = ofDocument countdownAfter ∧
      (ofDocument countdownAfter).examples.map Example.invocation = ["count(3)"] ∧
      (ofDocument countdownAfter).probes = [.expression none 5 3 "n"] ∧
      (ofDocument countdownAfter).halt = some (.missingTrigger 6) := by
  have lines : countdownBefore.lines.length = 6 ∧ countdownAfter.lines.length = 6 ∧
      ∀ n < 7, ∀ before ∈ countdownBefore.line? n, ∀ after ∈ countdownAfter.line? n,
        SameMarkup (exampleAt countdownBefore (n - 1)) before after := by decide +kernel
  obtain ⟨six, others, each⟩ := lines
  have edit : CodeEdit countdownBefore countdownAfter := by
    refine ⟨rfl, rfl, six.trans others.symm, ?_⟩
    intro n before here
    have inside := (bounds_of_line? here).2
    exact each n (by omega) before here
  have scanned : (ofDocument countdownAfter).examples.map Example.invocation = ["count(3)"] ∧
      (ofDocument countdownAfter).probes = [.expression none 5 3 "n"] ∧
      (ofDocument countdownAfter).halt = some (.missingTrigger 6) := by decide +kernel
  exact ⟨edit, ofDocument_of_codeEdit edit, scanned⟩

end Parts

end ExampleProbes.Annotations
