import ExampleProbes.Run.Examples
import ExampleProbes.Proofs.Run.CourseLaws

/-!
The stages of the run of one example. `Stages` lists what has to be kept from the lookup of
the function to the release of the hooks; `Stages.keeps` concludes for the whole run,
whatever the interpreter answers, and `runAll_advances` for the runs of all examples.
-/
namespace ExampleProbes

namespace Probe

/-- The expression that the probe asks the paused program about, if it asks. -/
def question? : Probe → Option String
  | .expression _ _ _ source => some source
  | .assertion _ _ _ source _ => some source
  | .selection _ source => some source
  | _ => none

/-- A probe makes one call for its question, and observes the same whatever was called
    before. -/
theorem evaluation_run (probe : Probe) (firing : Firing) (calls : List Call) :
    (probe.evaluation firing).run calls =
      (probe.evaluate firing, calls ++ probe.question?.toList.map .live) := by
  cases probe with
  | ofExample | statement | orphan => exact congrArg _ (List.append_nil calls).symm
  | expression | assertion | selection => rfl

end Probe

namespace Machine

/-- The paused program is asked about the expression of the probe, if it has one. -/
def ask (probe : Probe) (machine : Machine) : Machine :=
  match probe.question? with
  | some expression => machine.log (.live expression)
  | none => machine

theorem fireProbe_eq (name : String) (firing : Firing) (machine : Machine) (index : Nat)
    (probe : Probe) : machine.fireProbe name firing index probe =
      if probe.appliesTo name then
        (machine.ask probe).change
          (·.observe firing.uri firing.line index name (probe.evaluate firing))
      else machine := by
  simp only [fireProbe, Probe.evaluation_run, ask]
  cases probe.question? <;> simp [log]

end Machine

namespace Run
open Process

section Consult
variable {α : Type} (call : Call) (answer : List Call → α) (machine : Machine)

theorem consult_apply : consult call answer machine =
    .done (machine.log call) (answer machine.calls) := rfl

@[simp] theorem consult_final : (consult call answer machine).final = machine.log call := rfl

@[simp] theorem consult_value : (consult call answer machine).value = answer machine.calls := rfl

theorem consult_advances {later : Machine → Machine → Prop} {call : Call}
    (logged : ∀ m, later m (m.log call)) : Advances later (consult call answer) := logged

end Consult

variable {ready running ended : Machine → Prop} {later : Machine → Machine → Prop}

theorem strike_kept (within : Machine → Prop) (event : Event) {machine : Machine}
    (inside : within machine)
    (asked : ∀ m expression, within m → within (m.log (.live expression)))
    (changed : ∀ m f, within m → within (m.change f)) : within (machine.strike event) := by
  have probe : ∀ name firing m index p, within m → within (m.fireProbe name firing index p) := by
    intro name firing m index p inside
    simp only [Machine.fireProbe_eq, Machine.ask]
    split
    · apply changed
      split
      · exact asked _ _ inside
      · exact inside
    · exact inside
  have probes : ∀ name firing probes m index, within m →
      within (m.fireProbes name firing index probes) := by
    intro name firing probes
    induction probes with
    | nil => exact fun m index inside => inside
    | cons p rest ih => exact fun m index inside => ih _ _ (probe name firing m index p inside)
  have fire : ∀ name firing m, within m → within (m.fire name firing) := by
    intro name firing m inside
    simp only [Machine.fire]
    split
    · exact inside
    · split
      · exact changed _ _ inside
      · exact probes name firing _ m 0 inside
  exact List.foldlRecOn _ _ inside fun m inside hook _ => fire hook.name event.firing m inside

theorem evaluateAll_advances (forward : Course.Forward later) (interpreter : Interpreter)
    (languageId : String)
    (evaluated : ∀ m source, later m (m.log (.evaluate languageId source argumentSource)))
    (sources : List String) :
    Advances later (evaluateAll interpreter languageId sources) := by
  induction sources with
  | nil => exact advances_pure forward _
  | cons source rest ih =>
    refine advances_bind forward ?_ ?_
    · refine advances_bind forward (consult_advances _ fun m => evaluated m source) fun _ => ?_
      exact advances_bind forward (advances_sleep forward _) fun _ => advances_pure forward _
    · intro outcome
      cases outcome with
      | error fault => exact advances_pure forward _
      | ok value =>
        refine advances_bind forward ih fun answer => ?_
        cases answer <;> exact advances_pure forward _

theorem passEvents_advances (forward : Course.Forward later)
    (struck : ∀ m event, later m (m.strike event)) (events : List Event) :
    Advances later (passEvents events) := by
  induction events with
  | nil => exact advances_pure forward _
  | cons event rest ih =>
    refine advances_bind forward (advances_sleep forward _) fun _ => ?_
    exact advances_bind forward (advances_modify fun m => struck m event) fun _ => ih

theorem invoke_advances (forward : Course.Forward later) (interpreter : Interpreter)
    (invoked : ∀ m function arguments, later m (m.log (.invoke function arguments)))
    (struck : ∀ m event, later m (m.strike event)) (function : Value)
    (arguments : List Value) : Advances later (invoke interpreter function arguments) := by
  refine advances_bind forward (consult_advances _ fun m => invoked m _ _) fun _ => ?_
  refine advances_bind forward (passEvents_advances forward struck _) fun _ => ?_
  exact advances_bind forward (advances_sleep forward _) fun _ => advances_pure forward _

/-- A property for each stage of the run of `e` from `start`: `ready` until the hooks are
    attached, `running` until they are released, `ended` after that. -/
structure Stages (interpreter : Interpreter) (e : Example) (start : Machine)
    (ready running ended : Machine → Prop) : Prop where
  looked : ready (start.log (.lookup e.location.languageId e.signature.identifier))
  evaluated : ∀ m source, ready m →
    ready (m.log (.evaluate e.location.languageId source argumentSource))
  refused : ∀ m expression fault, ready m →
    ended (m.change (·.observeExample e (.ofFault expression fault)))
  attached : ∀ m, ready m → running (attachFor interpreter e.name m)
  invoked : ∀ m function arguments, running m → running (m.log (.invoke function arguments))
  struck : ∀ m event, running m → running (m.strike event)
  settled : ∀ m outcome, running m →
    ended (m.change (·.observeExample e (.ofOutcome e.signature.identifier outcome))).release

theorem Stages.keeps {interpreter : Interpreter} {e : Example} {start : Machine}
    (stages : Stages interpreter e start ready running ended) :
    (runExample interpreter e start).Keeps (fun m => ready m ∨ running m) fun _ => ended := by
  have found := stages.looked
  simp only [runExample, resolve, bind_apply, pure_apply, consult_apply, Course.bind]
  cases target e.signature.identifier
      (interpreter.lookup start.calls e.location.languageId e.signature.identifier) with
  | error fault => exact stages.refused _ _ fault found
  | ok function =>
    have evaluating := evaluateAll_advances (Course.forward_of_invariant ready) interpreter
      e.location.languageId stages.evaluated e.arguments
    have before := (evaluating _).keeps found
    refine (before.mono (fun _ => Or.inl) fun _ _ => id).bind fun answer m inside => ?_
    cases answer with
    | error refusal => exact stages.refused m _ _ inside
    | ok arguments =>
      have invoking := invoke_advances (Course.forward_of_invariant running) interpreter
        stages.invoked stages.struck function arguments
      have during := (invoking _).keeps (stages.attached m inside)
      refine (during.mono (fun _ => Or.inr) fun _ _ => id).bind fun outcome m inside => ?_
      exact stages.settled m outcome inside

/-- What every step of a run goes on to holds between all states of a run. -/
theorem runAll_advances (forward : Course.Forward later) (interpreter : Interpreter)
    (logged : ∀ m call, later m (m.log call))
    (settled : ∀ m e observation, later m (m.change (·.observeExample e observation)))
    (attached : ∀ m name uri line, later m (m.attach interpreter name uri line))
    (struck : ∀ m event, later m (m.strike event)) (released : ∀ m, later m m.release)
    (examples : List Example) : Advances later (runAll interpreter examples) := by
  have attachedAll : ∀ name m, later m (attachFor interpreter name m) := fun name m =>
    List.foldlRecOn _ _ (forward.refl m) fun _ before line _ =>
      forward.trans before (attached _ name line.1 line.2)
  have settles : ∀ e observation, Advances later (settle e observation) := fun e observation =>
    advances_modify fun m => settled m e observation
  -- One example after another; inside one, stage by stage in the order of `runExample`.
  induction examples with
  | nil => exact advances_pure forward _
  | cons e rest ih =>
    refine advances_bind forward ?_ fun _ => ih
    refine advances_bind forward ?_ fun found => ?_
    · exact advances_bind forward (consult_advances _ fun m => logged m _) fun _ =>
        advances_pure forward _
    · cases found with
      | error fault => exact settles e _
      | ok function =>
        refine advances_bind forward (evaluateAll_advances forward interpreter _
          (fun m _ => logged m _) _) fun answer => ?_
        cases answer with
        | error refusal => exact settles e _
        | ok arguments =>
          refine advances_bind forward (advances_modify (attachedAll e.name)) fun _ => ?_
          refine advances_bind forward (invoke_advances forward interpreter
            (fun m _ _ => logged m _) struck function arguments) fun outcome => ?_
          exact advances_bind forward (settles e _) fun _ => advances_modify released

end Run
end ExampleProbes
