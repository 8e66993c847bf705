import ExampleProbes.Guest.Call
import ExampleProbes.Probe.Basic
import ExampleProbes.Probe.Observation
/-
What a probe makes of one firing of its line: it records the outcome of the statement, or
asks the paused program about an expression of its own, or checks an assertion.
-/
namespace ExampleProbes

/-- A statement that has just ended: its place, source text and outcome, and the answers of
   the paused program. -/
structure Firing where
  uri : String
  line : Nat
  source : String
  outcome : Outcome
  ask : String → Outcome

/-- Asks the paused program, which is a call like any other. -/
def Firing.question (firing : Firing) (expression : String) : StateM (List Call) Outcome := do
  modify (· ++ [.live expression])
  return firing.ask expression

namespace Probe

/-- Why an expected value was not met, if it was not. -/
def expectationFailure (expected : Value) : Outcome → Option String
  | .ok observed =>
    if expected.same observed then none
    else some ("expected: " ++ expected.shown ++ "; got: " ++ observed.shown)
  | .error fault => some ("expected: " ++ expected.shown ++ "; got: " ++ fault.message)

def conditionFailure (condition : Value) : Option String :=
  if condition.holds then none else some ("expected: true; got: " ++ condition.shown)

def verdict (expression : String) (failure : Option String) : Observation :=
  .describe expression (.ofBool failure.isNone) failure

/-- What is observed of an assertion by the answer to its question. -/
def check (expression : String) (isExpectedValue : Bool) (outcome : Outcome) :
    (answer : Outcome) → Observation
  | .error fault => .ofFault expression fault
  | .ok value =>
    verdict expression
      (if isExpectedValue then expectationFailure value outcome else conditionFailure value)

/-- Adds what it asks to the calls made so far. -/
def evaluation (probe : Probe) (firing : Firing) : StateM (List Call) Observation :=
  match probe with
  | .ofExample _ | .statement .. | .orphan _ => return .ofOutcome firing.source firing.outcome
  | .expression _ _ _ source | .selection _ source =>
    return .ofOutcome source (← firing.question source)
  | .assertion _ _ _ source isExpectedValue =>
    return check source isExpectedValue firing.outcome (← firing.question source)

def evaluate (probe : Probe) (firing : Firing) : Observation :=
  ((probe.evaluation firing).run []).1

theorem evaluate_eq (probe : Probe) (firing : Firing) : probe.evaluate firing =
    match probe with
    | .ofExample _ | .statement .. | .orphan _ => .ofOutcome firing.source firing.outcome
    | .expression _ _ _ source | .selection _ source => .ofOutcome source (firing.ask source)
    | .assertion _ _ _ source isExpectedValue =>
      check source isExpectedValue firing.outcome (firing.ask source) := by
  cases probe <;> rfl

end Probe
end ExampleProbes
