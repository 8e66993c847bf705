import ExampleProbes.Run.Machine
/-
What a hook does when a statement has ended on its line: every probe there that applies to
the example records once. A line without probes gets an orphan record.
-/
namespace ExampleProbes.Machine

/-- The calls that the probe makes are made before its observation is put down. -/
def fireProbe (name : String) (firing : Firing) (machine : Machine) (index : Nat)
    (probe : Probe) : Machine :=
  if probe.appliesTo name then
    let (observation, calls) := (probe.evaluation firing).run machine.calls
    { machine with calls }.change
      (·.observe firing.uri firing.line index name observation)
  else machine

/-- The probes stand at positions from `index` on. -/
def fireProbes (name : String) (firing : Firing) (machine : Machine) (index : Nat) :
    List Probe → Machine
  | [] => machine
  | probe :: rest =>
    fireProbes name firing (machine.fireProbe name firing index probe) (index + 1) rest

def fire (name : String) (firing : Firing) (machine : Machine) : Machine :=
  if firing.line = 0 then machine
  else
    match machine.report.probesAt firing.uri firing.line with
    | [] =>
      machine.change
        (·.observeOrphan firing.uri firing.line name
          (.ofOutcome firing.source firing.outcome))
    | probes => machine.fireProbes name firing 0 probes

/-- Every hook at the site of the event fires, in the order in which they were attached. -/
def strike (event : Event) (machine : Machine) : Machine :=
  (machine.hooks.filter (·.site == event.site)).foldl
    (fun m hook => m.fire hook.name event.firing) machine

end ExampleProbes.Machine
