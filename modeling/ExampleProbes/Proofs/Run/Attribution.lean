import ExampleProbes.Proofs.Report.Filters
import ExampleProbes.Proofs.Run.HookRelease
import ExampleProbes.Proofs.Run.Striking

/-!
What the run of an example leaves in a report, and where. A firing is a sequence of single
steps: it gives an observation to a record whose probe applies to the example, or an orphan
to a line without records. Each step, and the outcome at the end, adds to what is stored
under the name of the example, at a place that admits it, and so does the run, in every
state and however it ends.
-/
namespace ExampleProbes

namespace Report.Fired
variable {name : String} {firing : Firing} {before after : Report}

/-- Each step is one change of the report. -/
theorem change (fired : Fired name firing before after) :
    ∃ change : Change, change.applied before = after := by
  cases fired with
  | @recorded index record found applies =>
    exact ⟨.observation firing.uri firing.line index name (record.probe.evaluate firing), rfl⟩
  | orphaned numbered unclaimed =>
    refine ⟨.orphan firing.uri firing.line name (.ofOutcome firing.source firing.outcome), ?_⟩
    rw [Change.applied_orphan, if_neg numbered]

theorem sound (fired : Fired name firing before after) (held : before.Sound) : after.Sound := by
  obtain ⟨change, rfl⟩ := fired.change
  exact Change.applied_sound held change

theorem filtered (fired : Fired name firing before after) (held : before.Filtered) :
    after.Filtered := by
  cases fired with
  | recorded found applies =>
    refine held.observe (fun record here => ?_) _
    obtain rfl := Option.some.inj (found.symm.trans here)
    exact applies
  | orphaned numbered unclaimed => exact held.observeOrphan _ _ name _

end Report.Fired

/-- What goes on in every step of the firings goes on where hooks pass an event on. -/
theorem Machine.strike_advances {later : Report → Report → Prop} (forward : Course.Forward later)
    {machine : Machine} {event : Event}
    (fired : ∀ hook ∈ machine.hooks, ∀ a b, Report.Fired hook.name event.firing a b → later a b) :
    later machine.report (machine.strike event).report := by
  refine List.foldlRecOn (motive := fun m : Machine => later machine.report m.report) _ _
    (forward.refl _) fun m before hook member => ?_
  have own := fired hook (List.mem_filter.mp member).1
  exact forward.trans before (fire_advances hook.name event.firing forward own m)

/-- Whether the run of `e` may add to a record of the probe at the place: in the list of the
    examples if it is located where `e` is, and at a line if it is not for another example. -/
def Place.Admits (e : Example) (probe : Probe) : Place → Prop
  | .inExamples uri _ => uri = e.location.uri ∧ FileReport.isAt e.location { probe }
  | .atLine .. => ∀ only, probe.only? = some only → only = e.name

/-- From `old` to `new` observations came in behind those under `name`. -/
structure Record.Added (name : String) (old new : Record) : Prop where
  probe : new.probe = old.probe
  others : ∀ other, other ≠ name → new.observed other = old.observed other
  own : old.observed name <+: new.observed name

namespace Record.Added
variable {name : String}

theorem trans {a b c : Record} (first : Added name a b) (second : Added name b c) :
    Added name a c where
  probe := second.probe.trans first.probe
  others other different := (second.others other different).trans (first.others other different)
  own := first.own.trans second.own

theorem add (made : Observation) (record : Record) : Added name record (record.add name made) where
  probe := rfl
  others _ different := observed_add_of_ne different made record
  own := by
    rw [observed_add_self]
    exact List.prefix_append _ _

end Record.Added

/-- What becomes of the record at a place while `e` runs: it stays, or it is added to where
    the place admits that, or an orphan comes in. -/
inductive Place.Gains (e : Example) (place : Place) : Option Record → Option Record → Prop where
  | stays (record : Option Record) : Gains e place record record
  | added {old new : Record} (more : old.Added e.name new) (admits : place.Admits e old.probe) :
      Gains e place (some old) (some new)
  | orphan {uri : String} {line index : Nat} {new : Record} (here : place = .atLine uri line index)
      (more : Record.Added e.name { probe := .orphan line } new) : Gains e place none (some new)

namespace Place.Gains
variable {e : Example} {place : Place} {a b c : Option Record}

theorem trans (first : place.Gains e a b) (second : place.Gains e b c) : place.Gains e a c := by
  cases first with
  | stays => exact second
  | added more admits =>
    cases second with
    | stays => exact .added more admits
    | added again _ => exact .added (more.trans again) admits
  | orphan here more =>
    cases second with
    | stays => exact .orphan here more
    | added again _ => exact .orphan here (more.trans again)

variable (gains : place.Gains e a b)
include gains

theorem others {name : String} (different : name ≠ e.name) :
    (b.map (·.observed name)).getD [] = (a.map (·.observed name)).getD [] := by
  cases gains with
  | stays => rfl
  | added more _ | orphan _ more => exact more.others name different

theorem own : (a.map (·.observed e.name)).getD [] <+: (b.map (·.observed e.name)).getD [] := by
  cases gains with
  | stays => exact List.prefix_rfl
  | added more _ => exact more.own
  | orphan => exact List.nil_prefix

theorem admitted
    (changed : (b.map (·.observed e.name)).getD [] ≠ (a.map (·.observed e.name)).getD []) :
    ∃ record, b = some record ∧ place.Admits e record.probe := by
  cases gains with
  | stays => exact absurd rfl changed
  | added more admits => exact ⟨_, rfl, more.probe ▸ admits⟩
  | orphan here more =>
    refine ⟨_, rfl, ?_⟩
    rw [here, more.probe]
    intro only filter
    cases filter

theorem foreign {record : Record} (found : a = some record) {only : String}
    (filter : record.probe.only? = some only) (different : only ≠ e.name) : b = some record := by
  cases gains with
  | stays => exact found
  | orphan => cases found
  | added more admits =>
    obtain rfl := Option.some.inj found
    cases place with
    | inExamples uri index =>
      have free := FileReport.Filtered.only?_of_isAt admits.2
      exact absurd (filter.symm.trans free) (by simp)
    | atLine uri line index => exact absurd (admits only filter) different

end Place.Gains

namespace Report
variable {e : Example} {before after : Report}

def Gains (e : Example) (before after : Report) : Prop :=
  ∀ place : Place, place.Gains e (before.record? place) (after.record? place)

theorem gains_forward (e : Example) : Course.Forward (Gains e) :=
  ⟨fun _ _ => .stays _, fun first second place => (first place).trans (second place)⟩

theorem Fired.gains {firing : Firing} (fired : Fired e.name firing before after) :
    Gains e before after := by
  intro place
  cases fired with
  | @recorded index record found applies =>
    rw [record?_observe]
    split
    · rename_i here
      subst here
      have same : before.record? (.atLine firing.uri firing.line index) = some record := found
      rw [same]
      exact .added (.add _ record) fun _ => Probe.only?_of_appliesTo applies
    · exact .stays _
  | orphaned numbered unclaimed =>
    by_cases registered : firing.uri ∈ before.uris
    · rw [record?_observeOrphan _ _ _ _ registered]
      split
      · rename_i here
        have absent : before.record? place = none := by
          simp [here, orphanPlace, record?, unclaimed]
        rw [absent]
        exact .orphan here (.add _ _)
      · exact .stays _
    · rw [observeOrphan_of_unregistered firing.uri firing.line e.name _ registered]
      exact .stays _

theorem isAt_of_ownPlace {record : Record}
    (found : before.record? (before.ownPlace e) = some record) :
    FileReport.isAt e.location record := by
  obtain ⟨inside, rfl⟩ := List.getElem?_eq_some_iff.mp found
  exact List.findIdx_getElem

theorem observeExample_gains_own (made : Observation) :
    Gains e before (before.observeExample e made) := by
  intro place
  rw [record?_observeExample]
  split
  · rename_i here
    subst here
    cases found : before.record? (before.ownPlace e) with
    | none => exact .stays none
    | some record =>
      have located := isAt_of_ownPlace found
      exact .added (.add made record) ⟨rfl, located⟩
  · exact .stays _

/-- Whatever the run of `e` adds to a report is stored under its name, behind what is there,
    and at a place that admits it; the records for other examples only are left alone. -/
structure Attributed (e : Example) (before after : Report) : Prop where
  others : ∀ place name, name ≠ e.name → after.observed place name = before.observed place name
  own : ∀ place, before.observed place e.name <+: after.observed place e.name
  admitted : ∀ place, after.observed place e.name ≠ before.observed place e.name →
    ∃ record, after.record? place = some record ∧ place.Admits e record.probe
  foreign : ∀ place record only, before.record? place = some record →
    record.probe.only? = some only → only ≠ e.name → after.record? place = some record

theorem Gains.attributed (gains : Gains e before after) : Attributed e before after where
  others place _ := (gains place).others
  own place := (gains place).own
  admitted place := (gains place).admitted
  foreign place _ _ found := (gains place).foreign found

end Report

namespace Run
open Report

/-- What the steps of firings and the outcome keep holds of the report all through the run. -/
theorem runExample_keeps (interpreter : Interpreter) (e : Example) {kept : Report → Prop}
    (fired : ∀ firing a b, Fired e.name firing a b → kept a → kept b)
    (settled : ∀ made report, kept report → kept (report.observeExample e made))
    {start : Machine} (free : start.hooks = []) (before : kept start.report) :
    (runExample interpreter e start).Keeps (fun m => kept m.report) fun _ m => kept m.report := by
  let within (m : Machine) : Prop := kept m.report ∧ ∀ hook ∈ m.hooks, hook.name = e.name
  have stages : Stages interpreter e start within within fun m => kept m.report :=
    { looked := ⟨before, by simp [Machine.log, free]⟩
      evaluated := fun _ _ inside => inside
      refused := fun m expression fault inside => settled _ _ inside.1
      attached := fun m inside =>
        ⟨(attachFor_report interpreter e.name m).symm ▸ inside.1,
          attachFor_names interpreter e.name inside.2⟩
      invoked := fun _ _ _ inside => inside
      struck := fun m event inside => by
        refine ⟨?_, by rw [Machine.strike_hooks]; exact inside.2⟩
        refine Machine.strike_advances (Course.forward_of_invariant kept) ?_ inside.1
        intro hook member a b step
        rw [inside.2 hook member] at step
        exact fired event.firing a b step
      settled := fun m outcome inside => by
        rw [Machine.release_eq]
        exact settled _ _ inside.1 }
  exact stages.keeps.mono (fun _ inside => inside.elim And.left And.left) fun _ _ => id

theorem runExample_upTo_keeps (interpreter : Interpreter) (e : Example) {kept : Report → Prop}
    (fired : ∀ firing a b, Fired e.name firing a b → kept a → kept b)
    (settled : ∀ made report, kept report → kept (report.observeExample e made))
    {start : Machine} (free : start.hooks = []) (before : kept start.report)
    (limit : Option Nat) :
    ∀ now ∈ ((runExample interpreter e).upTo Machine.release limit start).states,
      kept now.report := by
  intro now member
  have keeps := runExample_keeps interpreter e fired settled free before
  rcases (Process.upTo_keeps keeps Machine.release limit).states now member with
    seen | ⟨value, ending⟩
  · exact seen
  · cases value with
    | some value => exact ending
    | none =>
      obtain ⟨left, inside, rfl⟩ := ending
      rw [Machine.release_eq]
      exact inside

theorem runExample_attributed (interpreter : Interpreter) (e : Example) {start : Machine}
    (free : start.hooks = []) (limit : Option Nat) :
    ∀ now ∈ ((runExample interpreter e).upTo Machine.release limit start).states,
      Attributed e start.report now.report ∧ (start.report.Sound → now.report.Sound) := by
  intro now member
  have forward := gains_forward e
  have gains : Gains e start.report now.report :=
    runExample_upTo_keeps interpreter e
      (fun _ _ _ fired before => forward.trans before fired.gains)
      (fun made _ before => forward.trans before (observeExample_gains_own made))
      free (forward.refl start.report) limit now member
  refine ⟨gains.attributed, fun sound => ?_⟩
  exact runExample_upTo_keeps interpreter e (fun _ _ _ fired => fired.sound)
    (fun made _ before => Change.applied_sound before (.exampleObservation e made))
    free sound limit now member

/-- What goes on in every step of the firings and in every outcome goes on in the runs of
    examples, whatever hooks the interpreter holds. -/
theorem runAll_reports_advance {later : Report → Report → Prop} (forward : Course.Forward later)
    (fired : ∀ name firing a b, Fired name firing a b → later a b)
    (settled : ∀ report e made, later report (report.observeExample e made))
    (interpreter : Interpreter) (examples : List Example) :
    Process.Advances (fun a b : Machine => later a.report b.report)
      (runAll interpreter examples) := by
  have same : ∀ m now : Machine, now.report = m.report → later m.report now.report := by
    intro m now unchanged
    rw [unchanged]
    exact forward.refl m.report
  refine runAll_advances (forward.comap Machine.report) interpreter (fun m _ => same m _ rfl)
    (fun m => settled m.report) ?_ ?_ ?_ examples
  · exact fun m name uri line => same m _ (attach_report interpreter name uri line m)
  · exact fun m event => Machine.strike_advances forward fun hook _ => fired hook.name event.firing
  · exact fun m => same m _ (by rw [Machine.release_eq])

end Run
end ExampleProbes
