import Mathlib.Data.List.Basic
import Mathlib.Logic.Function.Iterate
import ExampleProbes.Proofs.Report.Growth
import ExampleProbes.Proofs.Run.Entry

/-!
What a firing does to the report. It reaches the records of one line of one file; a line
that had none is first claimed by an orphan record. Each record there for the example gains
what its probe makes of the firing, and a statement that several hooks sit on passes its
firing on once for each of them.
-/
namespace ExampleProbes

namespace Record

/-- The record after a firing of its line during the example called `name`. -/
def struck (name : String) (firing : Firing) (record : Record) : Record :=
  if record.probe.appliesTo name then record.add name (record.probe.evaluate firing)
  else record

/-- `after` has, in addition to `before`, what its probe makes of the firing, `count` times
    under `name`, if it is a probe for the example of that name. -/
structure Gained (count : Nat) (name : String) (firing : Firing) (before after : Record) :
    Prop where
  probe : after.probe = before.probe
  others : ∀ other, other ≠ name → after.observed other = before.observed other
  own : after.observed name = before.observed name ++
    List.replicate (if before.probe.appliesTo name then count else 0)
      (before.probe.evaluate firing)

variable {name : String} {firing : Firing}

theorem struck_gained (name : String) (firing : Firing) (record : Record) :
    Gained 1 name firing record (record.struck name firing) := by
  unfold struck
  by_cases applies : record.probe.appliesTo name
  · simp only [applies, ↓reduceIte]
    exact ⟨rfl, fun other different => observed_add_of_ne different _ record, by simp [applies]⟩
  · simp only [applies, Bool.false_eq_true, ↓reduceIte]
    exact ⟨rfl, fun _ _ => rfl, by simp [applies]⟩

theorem Gained.trans {first second : Nat} {a b c : Record} (before : Gained first name firing a b)
    (after : Gained second name firing b c) : Gained (first + second) name firing a c where
  probe := after.probe.trans before.probe
  others other different := (after.others other different).trans (before.others other different)
  own := by
    rw [after.own, before.own, before.probe, List.append_assoc, List.replicate_append_replicate]
    split <;> rfl

theorem struck_iterate_gained (name : String) (firing : Firing) (count : Nat)
    (record : Record) :
    Gained count name firing record ((struck name firing)^[count] record) := by
  induction count with
  | zero => exact ⟨rfl, fun _ _ => rfl, by simp⟩
  | succ count ih =>
    rw [Function.iterate_succ_apply']
    exact ih.trans (struck_gained name firing _)

end Record

/-- The records of a line once it is claimed. -/
def claimed (line : Nat) (records : List Record) : List Record :=
  if records = [] then [{ probe := .orphan line }] else records

theorem claimed_of_ne_nil {records : List Record} (filled : records ≠ []) (line : Nat) :
    claimed line records = records := if_neg filled

theorem claimed_ne_nil (line : Nat) (records : List Record) : claimed line records ≠ [] := by
  unfold claimed
  split
  · simp
  · assumption

/-- A line of a registered file. What is fired at any other is lost. -/
def Report.Heard (uri : String) (line : Nat) (report : Report) : Prop :=
  line ≠ 0 ∧ uri ∈ report.uris

/-- One step of a firing during the example called `name`: a record of the line gains what its
    probe makes of the firing, or a line without records gains an orphan. -/
inductive Report.Fired (name : String) (firing : Firing) : Report → Report → Prop where
  | recorded {report : Report} {index : Nat} {record : Record}
      (found : (report.recordsAt firing.uri firing.line)[index]? = some record)
      (applies : record.probe.appliesTo name) :
      Fired name firing report
        (report.observe firing.uri firing.line index name (record.probe.evaluate firing))
  | orphaned {report : Report} (numbered : firing.line ≠ 0)
      (unclaimed : report.recordsAt firing.uri firing.line = []) :
      Fired name firing report
        (report.observeOrphan firing.uri firing.line name
          (.ofOutcome firing.source firing.outcome))

namespace Machine
variable (name : String) (firing : Firing)

@[simp] theorem ask_report (probe : Probe) (machine : Machine) :
    (machine.ask probe).report = machine.report := by
  unfold ask
  split <;> rfl

section Advances
variable {later : Report → Report → Prop} (forward : Course.Forward later)
  (fired : ∀ a b, Report.Fired name firing a b → later a b)
include forward fired

theorem fireProbes_advances (front back : List Probe) {machine : Machine}
    (stands : machine.report.probesAt firing.uri firing.line = front ++ back) :
    later machine.report (machine.fireProbes name firing front.length back).report := by
  induction back generalizing front machine with
  | nil => exact forward.refl _
  | cons probe rest ih =>
    let next := machine.fireProbe name firing front.length probe
    have step : later machine.report next.report ∧
        next.report.probesAt firing.uri firing.line = (front ++ [probe]) ++ rest := by
      simp only [next, fireProbe_eq]
      by_cases applies : probe.appliesTo name
      · have here : (machine.report.probesAt firing.uri firing.line)[front.length]? =
            some probe := by simp [stands]
        rw [Report.probesAt_eq, List.getElem?_map, Option.map_eq_some_iff] at here
        obtain ⟨record, found, rfl⟩ := here
        simp only [applies, ↓reduceIte, change, ask_report, Report.probesAt_observe]
        exact ⟨fired _ _ (.recorded found applies), by simp [stands]⟩
      · simp only [applies, Bool.false_eq_true, ↓reduceIte]
        exact ⟨forward.refl _, by simp [stands]⟩
    have onward := ih (front ++ [probe]) step.2
    rw [List.length_append] at onward
    exact forward.trans step.1 onward

/-- What goes on in every step of a firing goes on in the firing. -/
theorem fire_advances (machine : Machine) :
    later machine.report (machine.fire name firing).report := by
  unfold fire
  split
  · exact forward.refl _
  · rename_i numbered
    split
    · rename_i unclaimed
      rw [Report.probesAt_eq, List.map_eq_nil_iff] at unclaimed
      exact fired _ _ (.orphaned numbered unclaimed)
    · exact fireProbes_advances name firing forward fired [] _ rfl

end Advances

theorem fire_kept (kept : Report → Prop)
    (observed : ∀ index observation report, kept report →
      kept (report.observe firing.uri firing.line index name observation))
    (orphaned : ∀ observation report, report.recordsAt firing.uri firing.line = [] →
      kept report → kept (report.observeOrphan firing.uri firing.line name observation))
    {machine : Machine} (before : kept machine.report) :
    kept (machine.fire name firing).report := by
  refine fire_advances name firing (Course.forward_of_invariant kept) (fun a b step => ?_) machine
    before
  cases step with
  | recorded found applies => exact observed _ _ a
  | orphaned numbered unclaimed => exact orphaned _ a unclaimed

theorem fire_uris (machine : Machine) :
    (machine.fire name firing).report.uris = machine.report.uris := by
  refine fire_kept name firing (·.uris = machine.report.uris) ?_ ?_ rfl
  · intro index observation report same
    rw [Report.uris_observe, same]
  · intro observation report _ same
    rw [Report.uris_observeOrphan, same]

theorem fire_examplesIn (uri : String) (machine : Machine) :
    (machine.fire name firing).report.examplesIn uri = machine.report.examplesIn uri := by
  refine fire_kept name firing (·.examplesIn uri = machine.report.examplesIn uri) ?_ ?_ rfl
  · intro index observation report same
    rw [Report.examplesIn_observe, same]
  · intro observation report _ same
    rw [Report.examplesIn_observeOrphan, same]

theorem fire_recordsAt_of_ne {uri : String} {line : Nat}
    (elsewhere : (uri, line) ≠ (firing.uri, firing.line)) (machine : Machine) :
    (machine.fire name firing).report.recordsAt uri line =
      machine.report.recordsAt uri line := by
  refine fire_kept name firing
    (·.recordsAt uri line = machine.report.recordsAt uri line) ?_ ?_ rfl
  · intro index observation report same
    rw [Report.recordsAt_observe_of_ne _ _ _ _ _ elsewhere, same]
  · intro observation report _ same
    rw [Report.recordsAt_observeOrphan_of_ne _ _ _ _ elsewhere, same]

variable {firing}

theorem fireProbe_recordsAt {front back : List Record} {record : Record} {machine : Machine}
    (stands : machine.report.recordsAt firing.uri firing.line = front ++ record :: back) :
    (machine.fireProbe name firing front.length record.probe).report.recordsAt
        firing.uri firing.line =
      front ++ record.struck name firing :: back := by
  rw [fireProbe_eq]
  unfold Record.struck
  split
  · simp only [change, Report.recordsAt_observe_self, ask_report, stands]
    rw [List.modify_eq_take_cons_drop (by simp)]
    simp
  · exact stands

theorem fireProbes_recordsAt (front back : List Record) {machine : Machine}
    (stands : machine.report.recordsAt firing.uri firing.line = front ++ back) :
    (machine.fireProbes name firing front.length (back.map (·.probe))).report.recordsAt
        firing.uri firing.line =
      front ++ back.map (Record.struck name firing) := by
  induction back generalizing front machine with
  | nil => simpa [fireProbes] using stands
  | cons record rest ih =>
    have next := fireProbe_recordsAt name stands
    have rewritten := ih (front ++ [record.struck name firing]) (by rw [next]; simp)
    simpa [fireProbes] using rewritten

theorem fire_recordsAt {machine : Machine} (heard : machine.report.Heard firing.uri firing.line) :
    (machine.fire name firing).report.recordsAt firing.uri firing.line =
      (claimed firing.line (machine.report.recordsAt firing.uri firing.line)).map
        (Record.struck name firing) := by
  unfold fire
  rw [if_neg heard.1, Report.probesAt_eq]
  cases stands : machine.report.recordsAt firing.uri firing.line with
  | nil =>
    simp only [List.map_nil, change, Report.recordsAt_observeOrphan_self _ _ _ _ heard.2, stands]
    rfl
  | cons record rest =>
    rw [claimed_of_ne_nil (List.cons_ne_nil record rest)]
    exact fireProbes_recordsAt name [] (record :: rest) stands

theorem fire_of_not_heard {machine : Machine}
    (lost : ¬ machine.report.Heard firing.uri firing.line) : machine.fire name firing = machine := by
  unfold fire
  by_cases zero : firing.line = 0
  · rw [if_pos zero]
  · have missing : firing.uri ∉ machine.report.uris := fun member => lost ⟨zero, member⟩
    rw [if_neg zero, Report.probesAt_eq, Report.recordsAt_of_unregistered missing]
    simp only [List.map_nil, change, Report.observeOrphan_of_unregistered _ _ _ _ missing]

theorem fire_of_claimed {machine : Machine} (numbered : firing.line ≠ 0)
    (claimed : machine.report.recordsAt firing.uri firing.line ≠ []) :
    machine.fire name firing = machine.fireProbes name firing 0
      (machine.report.probesAt firing.uri firing.line) := by
  have filled : machine.report.probesAt firing.uri firing.line ≠ [] := by
    rw [Report.probesAt_eq]
    exact mt List.map_eq_nil_iff.mp claimed
  unfold fire
  rw [if_neg numbered]
  split
  · rename_i none
    exact absurd none filled
  · rfl

theorem fire_of_unclaimed {machine : Machine} (numbered : firing.line ≠ 0)
    (unclaimed : machine.report.recordsAt firing.uri firing.line = []) :
    machine.fire name firing = machine.change (·.observeOrphan firing.uri firing.line name
      (.ofOutcome firing.source firing.outcome)) := by
  unfold fire
  rw [if_neg numbered, Report.probesAt_eq, unclaimed]
  rfl

/-- What goes on whenever a record gains goes on in a firing on a line that has records. -/
theorem fire_advances_of_claimed {later : Report → Report → Prop} (forward : Course.Forward later)
    (observed : ∀ index observation report,
      later report (report.observe firing.uri firing.line index name observation))
    {machine : Machine} (claimed : machine.report.recordsAt firing.uri firing.line ≠ []) :
    later machine.report (machine.fire name firing).report := by
  -- As long as the line has records, no step of the firing makes an orphan.
  let onward (a b : Report) : Prop := a.recordsAt firing.uri firing.line ≠ [] →
    later a b ∧ b.recordsAt firing.uri firing.line ≠ []
  have both : Course.Forward onward := by
    constructor
    · intro report held
      exact ⟨forward.refl report, held⟩
    · intro a b c first second held
      obtain ⟨early, next⟩ := first held
      obtain ⟨late, last⟩ := second next
      exact ⟨forward.trans early late, last⟩
  have fired : ∀ a b, Report.Fired name firing a b → onward a b := by
    intro a b step held
    cases step with
    | recorded found applies =>
      refine ⟨observed _ _ a, ?_⟩
      rw [Report.recordsAt_observe_self]
      intro none
      exact held (by simpa using none)
    | orphaned numbered unclaimed => exact absurd unclaimed held
  exact (fire_advances name firing both fired machine claimed).1

theorem fire_recordsAt_of_not_heard (firing : Firing) {machine : Machine} {uri : String}
    {line : Nat} (lost : ¬ machine.report.Heard uri line) :
    (machine.fire name firing).report.recordsAt uri line =
      machine.report.recordsAt uri line := by
  by_cases here : (uri, line) = (firing.uri, firing.line)
  · obtain ⟨rfl, rfl⟩ := Prod.mk.inj here
    rw [fire_of_not_heard name lost]
  · exact fire_recordsAt_of_ne name firing here machine

section Iterate
variable (firing) (count : Nat) (machine : Machine)

theorem iterate_fire_kept (kept : Report → Prop)
    (fired : ∀ m : Machine, kept m.report → kept (m.fire name firing).report)
    (before : kept machine.report) : kept ((·.fire name firing)^[count] machine).report := by
  induction count with
  | zero => exact before
  | succ count ih =>
    rw [Function.iterate_succ_apply']
    exact fired _ ih

theorem iterate_fire_uris :
    ((·.fire name firing)^[count] machine).report.uris = machine.report.uris :=
  iterate_fire_kept name firing count machine (·.uris = machine.report.uris)
    (fun m same => (fire_uris name firing m).trans same) rfl

variable {firing machine}

theorem iterate_fire_recordsAt_of_ne {uri : String} {line : Nat}
    (elsewhere : (uri, line) ≠ (firing.uri, firing.line)) :
    ((·.fire name firing)^[count] machine).report.recordsAt uri line =
      machine.report.recordsAt uri line :=
  iterate_fire_kept name firing count machine
    (·.recordsAt uri line = machine.report.recordsAt uri line)
    (fun m same => (fire_recordsAt_of_ne name firing elsewhere m).trans same) rfl

theorem iterate_fire_heard {uri : String} {line : Nat} (heard : machine.report.Heard uri line) :
    ((·.fire name firing)^[count] machine).report.Heard uri line :=
  ⟨heard.1, (iterate_fire_uris name firing count machine).symm ▸ heard.2⟩

theorem iterate_fire_recordsAt (heard : machine.report.Heard firing.uri firing.line)
    (filled : machine.report.recordsAt firing.uri firing.line ≠ []) :
    ((·.fire name firing)^[count] machine).report.recordsAt firing.uri firing.line =
      (machine.report.recordsAt firing.uri firing.line).map
        (Record.struck name firing)^[count] := by
  induction count with
  | zero => simp
  | succ count ih =>
    rw [Function.iterate_succ_apply', fire_recordsAt name (iterate_fire_heard name count heard),
      ih, claimed_of_ne_nil (by simpa using filled), List.map_map, Function.iterate_succ']

theorem iterate_fire_claimed (heard : machine.report.Heard firing.uri firing.line) :
    claimed firing.line (((·.fire name firing)^[count] machine).report.recordsAt
        firing.uri firing.line) =
      (claimed firing.line (machine.report.recordsAt firing.uri firing.line)).map
        (Record.struck name firing)^[count] := by
  induction count with
  | zero => simp
  | succ count ih =>
    have next : ∀ records, (claimed firing.line records).map (Record.struck name firing) ≠ [] := by
      intro records
      simpa using claimed_ne_nil firing.line records
    rw [Function.iterate_succ_apply', fire_recordsAt name (iterate_fire_heard name count heard),
      claimed_of_ne_nil (next _), ih, List.map_map, Function.iterate_succ']

end Iterate

/-- Where all hooks report to one example, an event is passed on once for each at its site. -/
theorem strike_eq_iterate (event : Event) {machine : Machine}
    (names : ∀ hook ∈ machine.hooks, hook.name = name) :
    machine.strike event =
      (·.fire name event.firing)^[machine.hooksOn event.site] machine := by
  have reports : ∀ (m : Machine), ∀ hook ∈ machine.hooks.filter (·.site == event.site),
      m.fire hook.name event.firing = m.fire name event.firing := by
    intro m hook member
    rw [names hook (List.mem_filter.mp member).1]
  rw [strike, List.foldl_ext _ _ machine reports, List.foldl_const, hooksOn,
    List.countP_eq_length_filter]

theorem strike_hooks (event : Event) (machine : Machine) :
    (machine.strike event).hooks = machine.hooks :=
  Run.strike_kept (·.hooks = machine.hooks) event rfl (fun _ _ same => same)
    fun _ _ same => same

theorem strike_uris (event : Event) (machine : Machine) :
    (machine.strike event).report.uris = machine.report.uris :=
  List.foldlRecOn (motive := fun m : Machine => m.report.uris = machine.report.uris) _ _ rfl
    fun m same hook _ => (fire_uris hook.name event.firing m).trans same

theorem strike_examplesIn (event : Event) (uri : String) (machine : Machine) :
    (machine.strike event).report.examplesIn uri = machine.report.examplesIn uri :=
  List.foldlRecOn
    (motive := fun m : Machine => m.report.examplesIn uri = machine.report.examplesIn uri) _ _ rfl
    fun m same hook _ => (fire_examplesIn hook.name event.firing uri m).trans same

theorem strike_recordsAt_of_not_heard (event : Event) {machine : Machine} {uri : String}
    {line : Nat} (lost : ¬ machine.report.Heard uri line) :
    (machine.strike event).report.recordsAt uri line = machine.report.recordsAt uri line := by
  have both : (machine.strike event).report.uris = machine.report.uris ∧
      (machine.strike event).report.recordsAt uri line = machine.report.recordsAt uri line := by
    refine List.foldlRecOn (motive := fun m : Machine => m.report.uris = machine.report.uris ∧
      m.report.recordsAt uri line = machine.report.recordsAt uri line) _ _ ⟨rfl, rfl⟩ ?_
    intro m same hook _
    have still : ¬ m.report.Heard uri line := fun heard => lost ⟨heard.1, same.1 ▸ heard.2⟩
    exact ⟨(fire_uris hook.name event.firing m).trans same.1,
      (fire_recordsAt_of_not_heard hook.name event.firing still).trans same.2⟩
  exact both.2

end Machine
end ExampleProbes
