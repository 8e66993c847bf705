import ExampleProbes.Proofs.Probe.Verdicts

/-!
Equality of values as an expectation sees it: symmetric and transitive, and reflexive just for
the values that have a display text. So a verdict does not depend on which of two values was
expected, and equal values are expected alike.
-/
namespace ExampleProbes

namespace Value
variable {a b c : Value}

theorem Agrees.symm (agrees : a.Agrees b) : b.Agrees a := by
  obtain ⟨text, shown, other⟩ := agrees.text
  exact ⟨agrees.boolean.symm, agrees.null.symm, agrees.number.symm, agrees.string.symm,
    text, other, shown⟩

theorem Agrees.trans (first : a.Agrees b) (second : b.Agrees c) : a.Agrees c := by
  obtain ⟨text, shown, middle⟩ := first.text
  obtain ⟨next, again, other⟩ := second.text
  obtain rfl : text = next := by simpa [middle] using again
  exact ⟨first.boolean.trans second.boolean, first.null.trans second.null,
    first.number.trans second.number, first.string.trans second.string, text, shown, other⟩

theorem agrees_self_iff : a.Agrees a ↔ ∃ text, a.display = .ok text := by
  constructor
  · intro agrees
    obtain ⟨text, shown, _⟩ := agrees.text
    exact ⟨text, shown⟩
  · rintro ⟨text, shown⟩
    exact ⟨rfl, rfl, rfl, rfl, text, shown, shown⟩

theorem same_comm (a b : Value) : a.same b = b.same a := by
  rw [Bool.eq_iff_iff, same_iff_agrees, same_iff_agrees]
  exact ⟨Agrees.symm, Agrees.symm⟩

/-- A value that is compared may be replaced by an equal one. -/
theorem same_congr (equal : a.same b) (observed : Value) : a.same observed = b.same observed := by
  rw [Bool.eq_iff_iff, same_iff_agrees, same_iff_agrees]
  have agrees := same_iff_agrees.mp equal
  exact ⟨agrees.symm.trans, agrees.trans⟩

theorem shown_eq_of_same (equal : a.same b) : a.shown = b.shown := by
  obtain ⟨text, shown, other⟩ := (same_iff_agrees.mp equal).text
  rw [Value.shown, Value.shown, shown, other]

end Value

namespace Probe

theorem expectationFailure_congr {a b : Value} (equal : a.same b) (outcome : Outcome) :
    expectationFailure a outcome = expectationFailure b outcome := by
  cases outcome with
  | error fault => rw [expectationFailure, expectationFailure, Value.shown_eq_of_same equal]
  | ok observed =>
    rw [expectationFailure, expectationFailure, Value.same_congr equal observed,
      Value.shown_eq_of_same equal]

theorem met_value_iff {expected observed : Value} :
    Met true expected (.ok observed) ↔ expected.Agrees observed := by
  simp [Met]

theorem IsVerdict.alike {source other text told : String} {met asMet : Prop}
    {record second : Observation} (here : IsVerdict source met text record)
    (there : IsVerdict other asMet told second) (equal : met ↔ asMet) :
    record.display = second.display ∧ (record.error = none ↔ second.error = none) := by
  have errors : record.error = none ↔ second.error = none :=
    here.accepted.trans (equal.trans there.accepted.symm)
  refine ⟨?_, errors⟩
  rcases here.display with passed | failed
  · rw [passed, there.passed.mpr (errors.mp (here.passed.mp passed))]
  · rcases there.display with passed | same
    · rw [passed, here.passed.mpr (errors.mpr (there.passed.mp passed))]
    · rw [failed, same]

end Probe

/-- A firing at which an expectation of `source` compares `expected` with `observed`. -/
structure Firing.Compares (firing : Firing) (source : String) (expected observed : Value) :
    Prop where
  asked : firing.ask source = .ok expected
  ended : firing.outcome = .ok observed

namespace Probe

theorem evaluate_isVerdict {firing : Firing} {source : String} {expected observed : Value}
    (compares : firing.Compares source expected observed) (only : Option String)
    (trigger line : Nat) :
    IsVerdict source (expected.Agrees observed) (failureText true expected (.ok observed))
      ((Probe.assertion only trigger line source true).evaluate firing) := by
  have verdict := check_isVerdict source true (.ok observed) expected
  simp only [met_value_iff] at verdict
  simpa only [evaluate_eq, compares.asked, compares.ended] using verdict

theorem evaluate_congr {firing other : Firing} {source : String} {expected equal : Value}
    (asked : firing.ask source = .ok expected) (askedOther : other.ask source = .ok equal)
    (same : expected.same equal) (ended : other.outcome = firing.outcome)
    (only : Option String) (trigger line : Nat) :
    (Probe.assertion only trigger line source true).evaluate other =
      (Probe.assertion only trigger line source true).evaluate firing := by
  simp only [evaluate_eq, check, asked, askedOther, ended, ↓reduceIte,
    expectationFailure_congr same firing.outcome]

/-- Equality of values is symmetric and transitive, and a value equals itself just if it has a
    display text. An expectation passes just if the expected value equals the observed one;
    which of two values is expected makes no difference to whether it passes, and equal
    values, when expected, leave the same record of any firing. -/
theorem equal_values_expected_alike :
    (∀ a b : Value, a.same b = b.same a) ∧
    (∀ a b c : Value, a.same b → b.same c → a.same c) ∧
    (∀ a : Value, a.same a ↔ ∃ text, a.display = .ok text) ∧
    ∀ (only : Option String) (trigger line : Nat) (source : String) (firing other : Firing),
      let probe := Probe.assertion only trigger line source true
      let record := probe.evaluate firing
      (∀ a b, firing.Compares source a b →
        (record.display = "true" ↔ a.same b) ∧
        (other.Compares source b a → (probe.evaluate other).display = record.display ∧
          ((probe.evaluate other).error = none ↔ record.error = none))) ∧
      (∀ a b, firing.ask source = .ok a → other.ask source = .ok b → a.same b →
        other.outcome = firing.outcome → probe.evaluate other = record) := by
  refine ⟨Value.same_comm, ?_, ?_, ?_⟩
  · intro a b c first second
    rw [Value.same_iff_agrees] at first second ⊢
    exact first.trans second
  · intro a
    rw [Value.same_iff_agrees]
    exact Value.agrees_self_iff
  · intro only trigger line source firing other probe record
    constructor
    · intro a b compares
      have verdict := evaluate_isVerdict compares only trigger line
      constructor
      · rw [Value.same_iff_agrees]
        exact verdict.passed.trans verdict.accepted
      · intro turned
        have back := evaluate_isVerdict turned only trigger line
        exact back.alike verdict ⟨Value.Agrees.symm, Value.Agrees.symm⟩
    · intro a b asked askedOther same ended
      exact evaluate_congr asked askedOther same ended only trigger line

section Numbers

/-- A number that can also be called. -/
def callableOne : Value where
  display := .ok "1"
  has trait := trait == .number || trait == .executable

def one : Value where
  display := .ok "1"
  has trait := trait == .number

def comparing (expected observed : Value) : Firing :=
  ⟨"a", 3, "x = 1", .ok observed, Script.scope [("limit", .ok expected)]⟩

/-- Tags other than the primitive ones do not tell numbers apart, on whichever side they are; a
    number without a display text equals no number. -/
theorem callable_one_is_expected_as_one :
    let probe := Probe.assertion none 3 2 "limit" true
    callableOne.same one ∧ ¬ muteNumber.same muteNumber ∧
      (comparing callableOne one).Compares "limit" callableOne one ∧
      (probe.evaluate (comparing callableOne one)).display = "true" ∧
      (probe.evaluate (comparing one callableOne)).display = "true" ∧
      probe.evaluate (comparing one muteNumber) =
        probe.evaluate (comparing callableOne muteNumber) := by
  intro probe
  obtain ⟨_, _, self, assertions⟩ := equal_values_expected_alike
  have same : callableOne.same one := by decide
  have mute : ¬ muteNumber.same muteNumber := by
    rw [self muteNumber]
    rintro ⟨text, shown⟩
    cases shown
  have compares : (comparing callableOne one).Compares "limit" callableOne one := ⟨rfl, rfl⟩
  obtain ⟨passed, turned⟩ := (assertions none 3 2 "limit" (comparing callableOne one)
    (comparing one callableOne)).1 callableOne one compares
  have shown := passed.mpr same
  have back := (turned ⟨rfl, rfl⟩).1
  refine ⟨same, mute, compares, shown, back.trans shown, ?_⟩
  exact (assertions none 3 2 "limit" (comparing callableOne muteNumber)
    (comparing one muteNumber)).2 callableOne one rfl rfl same rfl

end Numbers

end Probe
end ExampleProbes
