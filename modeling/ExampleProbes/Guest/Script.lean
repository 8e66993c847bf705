import ExampleProbes.Guest.Interpreter
/-
An interpreter that answers from tables. What a table does not hold is answered as an
interpreter would that knows nothing of it; documents load, and lines stay where they are.
Only a function may behave differently each time it is called: its calls are numbered from
0 under its display text.
-/
namespace ExampleProbes

/-- A member of a value; `value` is what reading it gives, where the value has an answer. -/
structure Member where
  name : String
  value : Option Outcome := none
  readable : Bool := true

/-- Of several members of one name the first answers for it. -/
def Value.withMembers (members : List Member) (value : Value) : Value :=
  let first? := fun name => members.find? (·.name == name)
  { value with
    memberNames := .ok (some (members.map (·.name)))
    isReadable := fun name => match first? name with
      | some member => member.readable
      | none => value.isReadable name
    member := fun name => match first? name with
      | some ⟨_, some outcome, _⟩ => outcome
      | _ => value.member name }

structure Script where
  loads : List (String × Delayed (Except Fault Unit)) := []
  globals : List (String × List (String × Outcome)) := []
  sources : List (String × Delayed Outcome) := []
  snaps : List (Site × Except Fault Nat) := []
  invocations : List (String × List Invocation) := []

namespace Script

def unknown (name : String) : Outcome := .error (.unknownIdentifier name)

/-- The answers of a paused program. -/
def scope (answers : List (String × Outcome)) (expression : String) : Outcome :=
  (answers.lookup expression).getD (unknown expression)

def missing (name : String) (earlier : Nat) : Invocation where
  events := []
  delay := 0
  outcome := .error
    (.internal ("no script for call " ++ toString earlier ++ " of " ++ name))

def global (script : Script) (languageId identifier : String) : Except Fault (Option Value) :=
  match (script.globals.lookup languageId).bind (·.lookup identifier) with
  | none => .ok none
  | some outcome => outcome.map some

/-- How often functions of this display text were called. -/
def countOf (name : String) (calls : List Call) : Nat :=
  calls.countP fun
    | .invoke function _ => function.label == name
    | _ => false

def invocation (script : Script) (name : String) (earlier : Nat) : Invocation :=
  (((script.invocations.lookup name).getD [])[earlier]?).getD (missing name earlier)

def interpreter (script : Script) : Interpreter where
  load _ document := (script.loads.lookup document.uri).getD ⟨0, .ok ()⟩
  lookup _ := script.global
  evaluate _ _ source _ := (script.sources.lookup source).getD ⟨0, unknown source⟩
  snap _ uri line := (script.snaps.lookup ⟨uri, line⟩).getD (.ok line)
  invoke earlier function _ := script.invocation function.label (countOf function.label earlier)

end Script
end ExampleProbes
