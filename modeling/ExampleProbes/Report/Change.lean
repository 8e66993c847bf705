import ExampleProbes.Report.Basic
/-
The ways to change a report. A probe or an orphan observation on line 0 is refused, the
latter only where its file is registered; a change that finds nothing to change is dropped.
-/
namespace ExampleProbes

inductive Change where
  | file (uri languageId : String)
  | example (e : Example)
  | probe (uri : String) (line : Nat) (p : Probe)
  | observation (uri : String) (line index : Nat) (name : String) (made : Observation)
  | exampleObservation (e : Example) (made : Observation)
  | orphan (uri : String) (line : Nat) (name : String) (made : Observation)
  deriving DecidableEq, Repr

namespace Change

/-- Trigger lines count from 1. -/
def numbered (line : Nat) : EStateM LineMisuse Report Unit :=
  if line = 0 then throw .trigger else return ()

/-- Changes a line of a file that is registered. The line is checked before it is touched. -/
def atLine (uri : String) (line : Nat) (change : Report → Report) :
    EStateM LineMisuse Report Unit := do
  if ((← get).file? uri).isSome then
    numbered line
    modify change

def run : Change → EStateM LineMisuse Report Unit
  | .file uri languageId => modify (·.register uri languageId)
  | .example e => modify (·.addExample e)
  | .probe uri line p => do
    numbered line
    atLine uri line (·.addProbe uri line p)
  | .observation uri line index name made => modify (·.observe uri line index name made)
  | .exampleObservation e made => modify (·.observeExample e made)
  | .orphan uri line name made => atLine uri line (·.observeOrphan uri line name made)

def apply (report : Report) (change : Change) : Except LineMisuse Report :=
  match change.run.run report with
  | .ok _ next => .ok next
  | .error misuse _ => .error misuse

/-- The report that is left, also by a change that was refused. -/
def applied (report : Report) (change : Change) : Report :=
  match change.run.run report with
  | .ok _ next => next
  | .error _ left => left

end Change
end ExampleProbes
