import ExampleProbes.Proofs.Run.FiredLine

/-!
What an assertion records. Where the paused program has a value for its expression, the record
is a verdict: true or false, with an error just where the check fails, whatever the values of
the check refuse to answer.
-/
namespace ExampleProbes

/-- Two values that an expectation takes for equal. -/
structure Value.Agrees (expected observed : Value) : Prop where
  boolean : expected.has .boolean = observed.has .boolean
  null : expected.has .null = observed.has .null
  number : expected.has .number = observed.has .number
  string : expected.has .string = observed.has .string
  text : ∃ text, expected.display = .ok text ∧ observed.display = .ok text

theorem Value.same_iff_agrees {expected observed : Value} :
    expected.same observed ↔ expected.Agrees observed := by
  have traits : (Trait.primitives.all fun trait => expected.has trait == observed.has trait) ↔
      expected.has .boolean = observed.has .boolean ∧ expected.has .null = observed.has .null ∧
        expected.has .number = observed.has .number ∧
          expected.has .string = observed.has .string := by
    simp [Trait.primitives]
  rw [same, Bool.and_eq_true, traits]
  constructor
  · rintro ⟨⟨boolean, null, number, string⟩, texts⟩
    refine ⟨boolean, null, number, string, ?_⟩
    split at texts
    · rename_i left right shown other
      obtain rfl : left = right := by simpa using texts
      exact ⟨left, shown, other⟩
    · cases texts
  · intro agrees
    obtain ⟨text, shown, other⟩ := agrees.text
    refine ⟨⟨agrees.boolean, agrees.null, agrees.number, agrees.string⟩, ?_⟩
    rw [shown, other]
    exact beq_self_eq_true text

theorem Value.holds_iff {condition : Value} :
    condition.holds ↔ condition.has .boolean ∧ condition.truth = .ok true := by
  unfold holds
  cases condition.truth <;> simp

namespace Probe

/-- Whether the value of an assertion's expression meets what the assertion asks of it. -/
def Met (isExpectedValue : Bool) (value : Value) (outcome : Outcome) : Prop :=
  if isExpectedValue then ∃ observed, outcome = .ok observed ∧ value.Agrees observed
  else value.has .boolean ∧ value.truth = .ok true

/-- What is said of an outcome that was not expected. -/
def shownOutcome : Outcome → String
  | .ok value => value.shown
  | .error fault => fault.message

def failureText (isExpectedValue : Bool) (value : Value) (outcome : Outcome) : String :=
  if isExpectedValue then "expected: " ++ value.shown ++ "; got: " ++ shownOutcome outcome
  else "expected: true; got: " ++ value.shown

/-- A failure is told just where a check is not met, and as one text. -/
structure Tells (failure : Option String) (met : Prop) (text : String) : Prop where
  none_iff : failure = none ↔ met
  text : ¬ met → failure = some text

theorem expectationFailure_tells (expected : Value) (outcome : Outcome) :
    Tells (expectationFailure expected outcome) (Met true expected outcome)
      (failureText true expected outcome) := by
  unfold expectationFailure Met failureText
  cases outcome with
  | error fault => constructor <;> simp [shownOutcome]
  | ok observed =>
    by_cases same : expected.same observed
    · have agrees := Value.same_iff_agrees.mp same
      constructor <;> simp [same, agrees]
    · have differs : ¬ expected.Agrees observed := fun agrees =>
        same (Value.same_iff_agrees.mpr agrees)
      constructor <;> simp [same, differs, shownOutcome]

theorem conditionFailure_tells (condition : Value) (outcome : Outcome) :
    Tells (conditionFailure condition) (Met false condition outcome)
      (failureText false condition outcome) := by
  unfold conditionFailure Met failureText
  by_cases holds : condition.holds
  · have met := Value.holds_iff.mp holds
    constructor <;> simp [holds, met]
  · have unmet := fun met => holds (Value.holds_iff.mpr met)
    constructor <;> simp_all

/-- A record of an assertion that could be checked. -/
structure IsVerdict (source : String) (met : Prop) (text : String) (record : Observation) :
    Prop where
  expression : record.expression = source
  traits : record.traits = [.boolean]
  sections : record.typeName = none ∧ record.members = none ∧ record.elements = none
  display : record.display = "true" ∨ record.display = "false"
  passed : record.display = "true" ↔ record.error = none
  accepted : record.error = none ↔ met
  failed : ¬ met → record.error = some text

theorem verdict_isVerdict {failure : Option String} {met : Prop} {text : String}
    (tells : Tells failure met text) (source : String) :
    IsVerdict source met text (verdict source failure) := by
  have accepted := tells.none_iff
  have traits : ∀ b, (Value.ofBool b).traits = [.boolean] := by decide
  cases failure with
  | none =>
    constructor
    · rfl
    · exact traits true
    · exact ⟨rfl, rfl, rfl⟩
    · exact Or.inl rfl
    · exact iff_of_true rfl rfl
    · exact accepted
    · exact tells.text
  | some told =>
    constructor
    · rfl
    · exact traits false
    · exact ⟨rfl, rfl, rfl⟩
    · exact Or.inr rfl
    · have shown : "false" ≠ "true" := by decide
      exact iff_of_false shown (Option.some_ne_none told)
    · exact accepted
    · exact tells.text

theorem check_isVerdict (source : String) (isExpectedValue : Bool) (outcome : Outcome)
    (value : Value) :
    IsVerdict source (Met isExpectedValue value outcome)
      (failureText isExpectedValue value outcome)
      (check source isExpectedValue outcome (.ok value)) := by
  cases isExpectedValue with
  | true => exact verdict_isVerdict (expectationFailure_tells value outcome) source
  | false => exact verdict_isVerdict (conditionFailure_tells value outcome) source

theorem not_met_of_undisplayed {value : Value} {outcome : Outcome} {fault : Fault}
    (undisplayed : value.display = .error fault ∨
      ∃ observed, outcome = .ok observed ∧ observed.display = .error fault) :
    ¬ Met true value outcome := by
  rintro ⟨observed, ended, agrees⟩
  obtain ⟨text, shown, other⟩ := agrees.text
  rcases undisplayed with refused | ⟨same, outcome_same, refused⟩
  · rw [shown] at refused
    cases refused
  · rw [ended] at outcome_same
    cases outcome_same
    rw [other] at refused
    cases refused

/-- A firing of an assertion asks the paused program once, for the assertion's expression, and
    hangs on no other answer. A fault of that answer is recorded as such. Any value gives a
    verdict: its only trait is boolean, it shows true or false, and it shows true just where it
    has no error, which is where the check is met; otherwise its error says what was wanted and
    what was found. An expectation is met by a statement that ended with a value of the same
    primitive traits and the same display text, a condition by a true boolean. A value without
    a display text meets no expectation, and the verdict says so. -/
theorem assertion_records_verdict (only : Option String) (trigger line : Nat) (source : String)
    (isExpectedValue : Bool) (firing : Firing) :
    let probe := Probe.assertion only trigger line source isExpectedValue
    let record := probe.evaluate firing
    (∀ (machine : Machine) (name : String) (index : Nat), probe.appliesTo name →
      machine.Asked [source] (machine.fireProbe name firing index probe) ∧
      (machine.fireProbe name firing index probe).report =
        machine.report.observe firing.uri firing.line index name record) ∧
    (∀ answers : String → Outcome, answers source = firing.ask source →
      probe.evaluate { firing with ask := answers } = record) ∧
    (∀ fault, firing.ask source = .error fault → record = .ofFault source fault) ∧
    (∀ value, firing.ask source = .ok value →
      let outcome := firing.outcome
      IsVerdict source (Met isExpectedValue value outcome)
        (failureText isExpectedValue value outcome) record ∧
      (isExpectedValue → ∀ fault,
        (value.display = .error fault ∨
          ∃ observed, outcome = .ok observed ∧ observed.display = .error fault) →
        record.display = "false" ∧
          record.error = some ("expected: " ++ value.shown ++ "; got: " ++
            shownOutcome outcome))) := by
  intro probe record
  have checked : record = check source isExpectedValue firing.outcome (firing.ask source) :=
    evaluate_eq probe firing
  refine ⟨?_, ?_, ?_, ?_⟩
  · intro machine name index applies
    have asked := Machine.fireProbe_asked name firing machine index probe
    rw [if_pos applies] at asked
    refine ⟨asked, ?_⟩
    rw [Machine.fireProbe_eq, if_pos applies]
    rfl
  · intro answers same
    apply evaluate_of_answer
    intro question asks
    obtain rfl : source = question := by simpa [probe, question?] using asks
    exact same
  · intro fault refused
    rw [checked, refused]
    rfl
  · intro value answered outcome
    have verdict : IsVerdict source (Met isExpectedValue value outcome)
        (failureText isExpectedValue value outcome) record := by
      rw [checked, answered]
      exact check_isVerdict source isExpectedValue outcome value
    refine ⟨verdict, ?_⟩
    rintro rfl fault undisplayed
    have unmet : ¬ Met true value outcome := not_met_of_undisplayed undisplayed
    have failed := verdict.failed unmet
    refine ⟨?_, failed⟩
    rcases verdict.display with passed | shown
    · rw [verdict.passed.mp passed] at failed
      cases failed
    · exact shown

section Undisplayed

/-- A number without a display text. -/
def muteNumber : Value where
  display := .error (.unsupportedMessage "toDisplayString")
  has trait := trait == .number

def endedWithFive : Firing :=
  ⟨"a", 3, "x = 5", .ok (.ofText "5"), Script.scope [("limit", .ok muteNumber)]⟩

theorem undisplayed_expectation_is_told :
    let probe := Probe.assertion (some "e") 3 2 "limit" true
    let record := probe.evaluate endedWithFive
    probe.appliesTo "e" ∧ endedWithFive.ask "limit" = .ok muteNumber ∧
      muteNumber.display = .error (.unsupportedMessage "toDisplayString") ∧
      Machine.Asked ["limit"] {} (Machine.fireProbe "e" endedWithFive {} 0 probe) ∧
      record.display = "false" ∧
      record.error = some "expected: Unsupported message: toDisplayString; got: 5" := by
  intro probe record
  have applies : probe.appliesTo "e" := by decide
  obtain ⟨once, _, _, answered⟩ :=
    assertion_records_verdict (some "e") 3 2 "limit" true endedWithFive
  obtain ⟨_, undisplayed⟩ := answered muteNumber rfl
  obtain ⟨shown, told⟩ := undisplayed rfl _ (Or.inl rfl)
  exact ⟨applies, rfl, rfl, (once {} "e" 0 applies).1, shown, told⟩

end Undisplayed

end Probe
end ExampleProbes
