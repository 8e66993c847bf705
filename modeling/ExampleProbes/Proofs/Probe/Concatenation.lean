import ExampleProbes.Proofs.Probe.Triggers

/-!
The annotations of lines in two parts. What a line of the first part declares is found
before its end, or else reading stops there; and what the second part declares depends on
the first only by the numbers of its lines. So the annotations of all lines are those of the
first part and, moved down behind them, those of the second.
-/
namespace ExampleProbes

def Location.movedDown (n : Nat) (location : Location) : Location :=
  { location with line := location.line + n }

def Example.movedDown (n : Nat) (e : Example) : Example :=
  { e with location := e.location.movedDown n }

def Probe.movedDown (n : Nat) : Probe → Probe
  | .ofExample e => .ofExample (e.movedDown n)
  | .statement only trigger => .statement only (trigger + n)
  | .expression only trigger line source => .expression only (trigger + n) (line + n) source
  | .assertion only trigger line source isExpectedValue =>
    .assertion only (trigger + n) (line + n) source isExpectedValue
  | .selection trigger source => .selection (trigger + n) source
  | .orphan line => .orphan (line + n)

def Halt.movedDown (n : Nat) : Halt → Halt
  | .malformedTag line error => .malformedTag (line + n) error
  | .missingSignature line => .missingSignature (line + n)
  | .missingTrigger line => .missingTrigger (line + n)

def Stop.movedDown (n : Nat) : Stop → Stop
  | .halt reason => .halt (reason.movedDown n)
  | .misuse refused => .misuse refused

def Finding.movedDown (n : Nat) : Finding → Finding
  | .example e => .example (e.movedDown n)
  | .probe p => .probe (p.movedDown n)
  | .nothing => .nothing

theorem nextLine_of_lt {line : Nat} (room : line < maxLine) : nextLine line = line + 1 := by
  unfold nextLine
  omega

theorem nextLine_add {line n : Nat} (room : line + n < maxLine) :
    nextLine (line + n) = nextLine line + n := by
  rw [nextLine_of_lt room, nextLine_of_lt (by omega)]
  omega

theorem nextLine_le (line : Nat) : nextLine line ≤ line + 1 := by
  unfold nextLine
  omega

namespace Annotations

def movedDown (n : Nat) (found : Annotations) : Annotations where
  examples := found.examples.map (·.movedDown n)
  probes := found.probes.map (·.movedDown n)
  halt := found.halt.map (·.movedDown n)
  misuse := found.misuse

/-- All that both have found, halted where the second is. -/
def followedBy (first second : Annotations) : Annotations where
  examples := first.examples ++ second.examples
  probes := first.probes ++ second.probes
  halt := second.halt
  misuse := second.misuse

section MovedDown
variable {n number : Nat}

theorem triggerFrom?_movedDown (lines : List (List Char))
    (room : number + n + lines.length ≤ maxLine + 1) :
    triggerFrom? (number + n) lines = (triggerFrom? number lines).map (· + n) := by
  induction lines generalizing number with
  | nil => rfl
  | cons line rest ih =>
    simp only [triggerFrom?]
    split
    · rfl
    · cases rest with
      | nil => rfl
      | cons next more =>
        have step := nextLine_le number
        simp only [List.length_cons] at room ih
        rw [nextLine_add (by omega), ih (by omega)]

/-- What was answered with a line number in it, where all lines are moved down. -/
def answerMovedDown {α : Type} (move : α → α) (n : Nat) : Except Stop α → Except Stop α
  | .ok answer => .ok (move answer)
  | .error stop => .error (stop.movedDown n)

theorem tagAt_movedDown (marker : Marker) (line : List Char) :
    tagAt (number + n) marker line = answerMovedDown id n (tagAt number marker line) := by
  unfold tagAt
  cases Tag.read marker line <;> rfl

theorem signatureAt_movedDown (rest : List (List Char)) :
    signatureAt (number + n) rest = answerMovedDown id n (signatureAt number rest) := by
  unfold signatureAt
  cases signature? rest <;> rfl

theorem triggerAt_movedDown (rest : List (List Char))
    (room : number + n + rest.length ≤ maxLine) :
    triggerAt (number + n) rest = answerMovedDown (· + n) n (triggerAt number rest) := by
  have same : triggerFrom? (nextLine (number + n)) rest =
      (triggerFrom? (nextLine number) rest).map (· + n) := by
    cases rest with
    | nil => rfl
    | cons line more =>
      have step := nextLine_le number
      rw [List.length_cons] at room
      rw [nextLine_add (by omega), triggerFrom?_movedDown]
      rw [List.length_cons]
      omega
  unfold triggerAt
  rw [same]
  cases triggerFrom? (nextLine number) rest <;> rfl

theorem placeAt_movedDown (numbered : 1 ≤ number) (uri languageId : String) :
    placeAt uri languageId (number + n) =
      answerMovedDown (Location.movedDown n) n (placeAt uri languageId number) := by
  rw [placeAt_of_le numbered, placeAt_of_le (by omega)]
  rfl

theorem exampleFinding_movedDown (tag : Tag) (location : Location) (signature : Signature) :
    exampleFinding tag (location.movedDown n) signature =
      (exampleFinding tag location signature).movedDown n := by
  unfold exampleFinding Example.bind?
  cases Example.argumentsOf? tag signature.parameters <;> rfl

theorem probeFinding_movedDown (tag : Tag) (trigger : Nat) :
    probeFinding tag (number + n) (trigger + n) =
      (probeFinding tag number trigger).movedDown n := by
  unfold probeFinding
  cases tag.attribute? ":expression" <;> rfl

theorem assertionFinding_movedDown (tag : Tag) (trigger : Nat) :
    assertionFinding tag (number + n) (trigger + n) =
      (assertionFinding tag number trigger).movedDown n := by
  unfold assertionFinding
  cases tag.attribute? ":expected" with
  | some source => rfl
  | none => cases tag.attribute? ":expression" <;> rfl

theorem finding_movedDown (numbered : 1 ≤ number) (uri languageId : String) (line : List Char)
    (rest : List (List Char)) (room : number + n + rest.length ≤ maxLine) :
    finding uri languageId (number + n) line rest =
      answerMovedDown (Finding.movedDown n) n (finding uri languageId number line rest) := by
  unfold finding
  split
  · rw [tagAt_movedDown, signatureAt_movedDown, placeAt_movedDown numbered]
    cases tagAt number .example line with
    | error stop => rfl
    | ok tag =>
      cases signatureAt number rest with
      | error stop => rfl
      | ok signature =>
        cases placeAt uri languageId number with
        | error stop => rfl
        | ok place => exact congrArg Except.ok (exampleFinding_movedDown tag place signature)
  · split
    · rw [tagAt_movedDown, triggerAt_movedDown rest room]
      cases tagAt number .probe line with
      | error stop => rfl
      | ok tag =>
        cases triggerAt number rest with
        | error stop => rfl
        | ok trigger => exact congrArg Except.ok (probeFinding_movedDown tag trigger)
    · split
      · rw [tagAt_movedDown, triggerAt_movedDown rest room]
        cases tagAt number .assertion line with
        | error stop => rfl
        | ok tag =>
          cases triggerAt number rest with
          | error stop => rfl
          | ok trigger => exact congrArg Except.ok (assertionFinding_movedDown tag trigger)
      · rfl

theorem add_movedDown (found : Finding) (later : Annotations) :
    add (found.movedDown n) (later.movedDown n) = (add found later).movedDown n := by
  cases found <;> rfl

/-- Lines that stand `n` lines further down declare the same, `n` lines further down. -/
theorem ofLinesFrom_movedDown (numbered : 1 ≤ number) (uri languageId : String)
    (lines : List (List Char)) (room : number + n + lines.length ≤ maxLine + 1) :
    ofLinesFrom uri languageId (number + n) lines =
      (ofLinesFrom uri languageId number lines).movedDown n := by
  induction lines generalizing number with
  | nil => rfl
  | cons line rest ih =>
    simp only [List.length_cons] at room
    simp only [ofLinesFrom]
    rw [finding_movedDown numbered uri languageId line rest (by omega)]
    cases finding uri languageId number line rest with
    | error stop => cases stop <;> rfl
    | ok found =>
      have later : ofLinesFrom uri languageId (nextLine (number + n)) rest =
          (ofLinesFrom uri languageId (nextLine number) rest).movedDown n := by
        cases rest with
        | nil => rfl
        | cons next more =>
          have step := nextLine_le number
          simp only [List.length_cons] at room ih
          rw [nextLine_add (by omega), ih (one_le_nextLine number) (by omega)]
      simp only [answerMovedDown, later, add_movedDown]

end MovedDown

section Append
variable (more : List (List Char))

theorem triggerFrom?_append {number trigger : Nat} {lines : List (List Char)}
    (found : triggerFrom? number lines = some trigger) :
    triggerFrom? number (lines ++ more) = some trigger := by
  induction lines generalizing number with
  | nil => cases found
  | cons line rest ih =>
    simp only [triggerFrom?] at found
    simp only [List.cons_append, triggerFrom?]
    split
    · rename_i here
      rwa [if_pos here] at found
    · rename_i elsewhere
      rw [if_neg elsewhere] at found
      exact ih found

theorem signature?_append {lines : List (List Char)} {signature : Signature}
    (found : signature? lines = some signature) :
    signature? (lines ++ more) = some signature := by
  induction lines with
  | nil => cases found
  | cons line rest ih =>
    simp only [signature?] at found
    simp only [List.cons_append, signature?]
    split
    · rename_i marked
      rw [if_pos marked] at found
      exact ih found
    · rename_i plain
      rwa [if_neg plain] at found

/-- An answer that stays as it is when lines follow: one that is not the want of a line. -/
def Settled {α : Type} : Except Stop α → Prop
  | .ok _ => True
  | .error stop => ∃ line error, stop = .halt (.malformedTag line error)

theorem bind_of_settled {α β : Type} {before after : Except Stop α} {next : α → Except Stop β}
    (kept : Settled before → after = before) (settled : Settled (before >>= next)) :
    (after >>= next) = (before >>= next) := by
  cases before with
  | ok answer => rw [kept trivial]
  | error stop => rw [kept settled]

theorem signatureAt_append {number : Nat} {rest : List (List Char)}
    (settled : Settled (signatureAt number rest)) :
    signatureAt number (rest ++ more) = signatureAt number rest := by
  unfold signatureAt at settled ⊢
  cases found : signature? rest with
  | none => simp [found, Settled] at settled
  | some signature => rw [signature?_append more found]

theorem triggerAt_append {number : Nat} {rest : List (List Char)}
    (settled : Settled (triggerAt number rest)) :
    triggerAt number (rest ++ more) = triggerAt number rest := by
  unfold triggerAt at settled ⊢
  cases found : triggerFrom? (nextLine number) rest with
  | none => simp [found, Settled] at settled
  | some trigger => rw [triggerFrom?_append more found]

theorem finding_append {uri languageId : String} {number : Nat} {line : List Char}
    {rest : List (List Char)} (settled : Settled (finding uri languageId number line rest)) :
    finding uri languageId number line (rest ++ more) =
      finding uri languageId number line rest := by
  unfold finding at settled ⊢
  split
  · rename_i marked
    rw [if_pos marked] at settled
    cases read : tagAt number .example line with
    | error stop => rfl
    | ok tag =>
      rw [read] at settled
      exact bind_of_settled (signatureAt_append more) settled
  · rename_i notExample
    rw [if_neg notExample] at settled
    split
    · rename_i marked
      rw [if_pos marked] at settled
      cases read : tagAt number .probe line with
      | error stop => rfl
      | ok tag =>
        rw [read] at settled
        exact bind_of_settled (triggerAt_append more) settled
    · rename_i notProbe
      rw [if_neg notProbe] at settled
      split
      · rename_i marked
        rw [if_pos marked] at settled
        cases read : tagAt number .assertion line with
        | error stop => rfl
        | ok tag =>
          rw [read] at settled
          exact bind_of_settled (triggerAt_append more) settled
      · rfl

theorem add_halt (found : Finding) (later : Annotations) : (add found later).halt = later.halt := by
  cases found <;> rfl

theorem add_followedBy (found : Finding) (first second : Annotations) :
    (add found first).followedBy second = add found (first.followedBy second) := by
  cases found <;> rfl

/-- Where the first lines do not halt, the others are read from the number after them on. -/
theorem ofLinesFrom_append (uri languageId : String) (first : List (List Char)) {number : Nat}
    (numbered : 1 ≤ number) (room : number + first.length + more.length ≤ maxLine + 1)
    (complete : (ofLinesFrom uri languageId number first).halt = none) :
    ofLinesFrom uri languageId number (first ++ more) =
      (ofLinesFrom uri languageId number first).followedBy
        (ofLinesFrom uri languageId (number + first.length) more) := by
  induction first generalizing number with
  | nil => rfl
  | cons line rest ih =>
    simp only [List.length_cons] at room
    simp only [ofLinesFrom, List.cons_append] at complete ⊢
    cases answer : finding uri languageId number line rest with
    | error stop =>
      obtain ⟨halt, rfl, _⟩ := finding_haltsAt numbered _ _ _ _ stop answer
      rw [answer] at complete
      cases complete
    | ok found =>
      have settled : Settled (finding uri languageId number line rest) := answer ▸ trivial
      rw [answer] at complete
      simp only [add_halt] at complete
      rw [finding_append more settled, answer]
      simp only [add_followedBy]
      congr 1
      by_cases full : number < maxLine
      · rw [nextLine_of_lt full] at complete ⊢
        rw [ih (by omega) (by omega) complete]
        congr 2
        simp only [List.length_cons]
        omega
      · have last : rest = [] ∧ more = [] := by
          constructor
          · exact List.length_eq_zero_iff.mp (by omega)
          · exact List.length_eq_zero_iff.mp (by omega)
        rw [last.1, last.2]
        rfl

theorem ofLinesFrom_append_of_malformed (uri languageId : String) (first : List (List Char))
    {number line : Nat} {error : TagError}
    (malformed : (ofLinesFrom uri languageId number first).halt =
      some (.malformedTag line error)) :
    ofLinesFrom uri languageId number (first ++ more) =
      ofLinesFrom uri languageId number first := by
  induction first generalizing number with
  | nil => cases malformed
  | cons text rest ih =>
    simp only [ofLinesFrom, List.cons_append] at malformed ⊢
    cases answer : finding uri languageId number text rest with
    | error stop =>
      rw [answer] at malformed
      cases stop with
      | misuse misuse => cases malformed
      | halt halt =>
        have reason : halt = .malformedTag line error := Option.some.inj malformed
        have settled : Settled (finding uri languageId number text rest) := by
          rw [answer]
          exact ⟨line, error, congrArg Stop.halt reason⟩
        rw [finding_append more settled, answer]
    | ok found =>
      have settled : Settled (finding uri languageId number text rest) := answer ▸ trivial
      rw [answer] at malformed
      simp only [add_halt] at malformed
      rw [finding_append more settled, answer]
      simp only [ih malformed]

end Append

/-- Lines that can all be numbered declare, part by part, what the parts declare, the second
    moved down behind the first, if the first is read to its end; a malformed tag in it ends
    the reading for both. -/
theorem ofLines_append (uri languageId : String) (first second : List (List Char))
    (numbered : (first ++ second).length ≤ maxLine) :
    ((ofLines uri languageId first).halt = none →
      ofLines uri languageId (first ++ second) =
        (ofLines uri languageId first).followedBy
          ((ofLines uri languageId second).movedDown first.length)) ∧
    ∀ line error, (ofLines uri languageId first).halt = some (.malformedTag line error) →
      ofLines uri languageId (first ++ second) = ofLines uri languageId first := by
  rw [List.length_append] at numbered
  constructor
  · intro complete
    unfold ofLines at complete ⊢
    rw [ofLinesFrom_append second uri languageId first (Nat.le_refl 1) (by omega) complete,
      ofLinesFrom_movedDown (Nat.le_refl 1) uri languageId second (by omega)]
  · intro line error malformed
    exact ofLinesFrom_append_of_malformed second uri languageId first malformed

section Parts

def twoExamples : List (List Char) :=
  ["// <Example :name=\"one\" n=\"1\" />", "// <Example :name=\"two\" n=\"2\" />", "f(n)",
    "// <Probe />", "", "x = n"].map String.toList

def assertionBelow : List (List Char) :=
  ["// <Assertion :expression=\"x &gt; 0\" />", "y = x"].map String.toList

def unquoted : List (List Char) := ["// <Probe />", "x", "// <Probe :expression=x />"].map String.toList

theorem ofLines_append_of_examples_and_unquoted :
    (twoExamples ++ assertionBelow).length ≤ maxLine ∧
      (ofLines "a" "toy" twoExamples).halt = none ∧
      ofLines "a" "toy" (twoExamples ++ assertionBelow) =
        (ofLines "a" "toy" twoExamples).followedBy
          ((ofLines "a" "toy" assertionBelow).movedDown 6) ∧
      ((ofLines "a" "toy" assertionBelow).movedDown 6).probes =
        [.assertion none 8 7 "x > 0" false] ∧
      (ofLines "a" "toy" unquoted).halt.map Halt.line = some 3 ∧
      ofLines "a" "toy" (unquoted ++ assertionBelow) = ofLines "a" "toy" unquoted := by
  have complete : (ofLines "a" "toy" twoExamples).halt = none := by decide +kernel
  have malformed : (ofLines "a" "toy" unquoted).halt = some (.malformedTag 3
      (.malformed .probe (.noElement "<Probe :expression=x />"))) := by decide +kernel
  have numbered : (twoExamples ++ assertionBelow).length ≤ maxLine := by decide
  have appended := (ofLines_append "a" "toy" twoExamples assertionBelow numbered).1 complete
  have halted := (ofLines_append "a" "toy" unquoted assertionBelow (by decide)).2 _ _ malformed
  refine ⟨numbered, complete, appended, by decide +kernel, ?_, halted⟩
  rw [malformed]
  rfl

end Parts
end Annotations
end ExampleProbes
