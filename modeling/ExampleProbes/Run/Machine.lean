import ExampleProbes.Guest.Interpreter
import ExampleProbes.Report.Basic
/-
The state of a run: the report so far, the hooks that sit in the interpreter, those of them
that the running example still has to release, and every call made of the interpreter, in
the order in which the calls began.
-/
namespace ExampleProbes

/-- A hook reports what happens at its site to the example called `name`. -/
structure Hook where
  number : Nat
  site : Site
  name : String
  deriving DecidableEq, Repr

structure Machine where
  report : Report := {}
  hooks : List Hook := []
  /-- How many hooks were ever attached; the next one has this number. -/
  attached : Nat := 0
  held : List Nat := []
  calls : List Call := []

namespace Machine

def log (call : Call) (machine : Machine) : Machine :=
  { machine with calls := machine.calls ++ [call] }

def change (f : Report → Report) (machine : Machine) : Machine :=
  { machine with report := f machine.report }

/-- Attaches a hook for a line at the statement that the interpreter moves it to. -/
def attach (interpreter : Interpreter) (name uri : String) (line : Nat) (machine : Machine) :
    Machine :=
  match interpreter.snap machine.calls uri line with
  | .error _ => machine.log (.attach uri line none)
  | .ok moved =>
    let number := machine.attached
    let next := machine.log (.attach uri line (some number))
    { next with
      hooks := next.hooks ++ [⟨number, ⟨uri, moved⟩, name⟩]
      attached := number + 1
      held := next.held ++ [number] }

def detach (machine : Machine) (number : Nat) : Machine :=
  let next := machine.log (.detach number)
  { next with hooks := next.hooks.filter (·.number != number) }

/-- Detaches the held hooks in the order in which they were attached. -/
def release (machine : Machine) : Machine :=
  { machine.held.foldl detach machine with held := [] }

end Machine
end ExampleProbes
