import ExampleProbes.Command.Analysis
import ExampleProbes.Command.Display
/-
Commands by name, in the order of their registration. A command has a budget of its own; it
is given up when it has not answered a second after that.
-/
namespace ExampleProbes

structure Command where
  name : String
  timeout : Nat
  execute : List Document → List Json → Process Session Json

namespace Command

def analysis (interpreter : Interpreter) (ties : Ties) (settings : Settings) : Command where
  name := "babylonian_analysis"
  timeout := settings.timeout
  execute documents arguments := do
    return Analysis.answer (← Analysis.run interpreter ties settings documents arguments)

def display (interpreter : Interpreter) (settings : Settings) : Command where
  name := "display_expression"
  timeout := settings.displayTimeout
  execute documents arguments := do
    let observation ← (Display.run interpreter settings documents arguments).within
      Session.machine fun machine session => { session with machine }
    return observation.toJson

end Command

abbrev Registry := List Command

namespace Registry

def standard (interpreter : Interpreter) (ties : Ties) (settings : Settings) : Registry :=
  [.analysis interpreter ties settings, .display interpreter settings]

/-- A command takes the place of one with its name, but stands at the end. -/
def register (command : Command) (registry : Registry) : Registry :=
  registry.filter (·.name != command.name) ++ [command]

def get? (name : String) (registry : Registry) : Option Command :=
  registry.find? (·.name == name)

def names (registry : Registry) : List String := registry.map (·.name)

/-- How long a command may go on after its budget. -/
def grace : Nat := 1000

def overrun (name : String) (budget elapsed : Nat) : Json :=
  .object [("timeToRunMillis", .nat elapsed),
    ("error", .string ("Command " ++ name ++ " timed out after " ++ toString budget ++ " ms"))]

/-- An answer, when it came, and what the interpreter and the client saw by then. -/
structure Reply where
  answer : Json
  elapsed : Nat
  session : Session

/-- Nothing is sent before the command begins, at time 0. -/
def dispatch (registry : Registry) (documents : List Document) (name : String)
    (arguments : List Json) (machine : Machine) : Option Reply :=
  (registry.get? name).map fun command =>
    let course := (command.execute documents arguments).cut Session.release
      (command.timeout + grace) ⟨machine, []⟩
    { answer := course.value.getD (overrun name command.timeout course.elapsed)
      elapsed := course.elapsed
      session := course.final }

end Registry
end ExampleProbes
