import ExampleProbes.Proofs.Report.Growth
import ExampleProbes.Proofs.Report.Places
import ExampleProbes.Report.Change

/-!
What single changes do. One that does not find what it names, or whose line is 0, is dropped
and leaves the report as it was. One that makes an observation else adds it at one place and
changes nothing besides.
-/
namespace ExampleProbes

theorem modifyFirst_of_fixed {α : Type} {p : α → Bool} {change : α → α} {xs : List α}
    (fixed : ∀ a, xs.find? p = some a → change a = a) : modifyFirst p change xs = xs := by
  induction xs with
  | nil => rfl
  | cons a rest ih =>
    by_cases here : p a
    · simp [modifyFirst, here, fixed a (by simp [here])]
    · simp only [modifyFirst, here, Bool.false_eq_true, ↓reduceIte]
      rw [ih fun b found => fixed b (by simp [here, found])]

theorem Ledger.modify_of_fixed {κ ν : Type} [DecidableEq κ] {key : κ} {change : ν → ν}
    {ledger : Ledger κ ν} (fixed : ∀ value, get? key ledger = some value → change value = value) :
    modify key change ledger = ledger := by
  induction ledger with
  | nil => rfl
  | cons entry rest ih =>
    obtain ⟨k, value⟩ := entry
    by_cases here : k = key
    · simp [modify, here, fixed value (by simp [get?, here])]
    · simp only [modify, here, ↓reduceIte]
      rw [ih fun next found => fixed next (by simp [get?, here, found])]

namespace Report

theorem modifyFile_of_fixed {uri : String} {change : FileReport → FileReport} {report : Report}
    (fixed : ∀ file, report.file? uri = some file → change file = file) :
    report.modifyFile uri change = report := by
  rw [modifyFile, modifyFirst_of_fixed fixed]

theorem modifyFile_of_unregistered {uri : String} (change : FileReport → FileReport)
    {report : Report} (missing : uri ∉ report.uris) : report.modifyFile uri change = report := by
  refine modifyFile_of_fixed fun file found => ?_
  rw [(file?_eq_none_iff uri).mpr missing] at found
  cases found

theorem observe_of_missing {uri : String} {line index : Nat} {report : Report}
    (missing : report.record? (.atLine uri line index) = none) (name : String)
    (made : Observation) : report.observe uri line index name made = report := by
  refine modifyFile_of_fixed fun file found => ?_
  have behind : (file.recordsOn line).length ≤ index := by
    simpa [record?, recordsAt, found] using missing
  have same : file.lines.modify line (fun records => records.modify index (·.add name made)) =
      file.lines := by
    refine Ledger.modify_of_fixed fun records here => ?_
    simp only [FileReport.recordsOn, here, Option.getD_some] at behind
    exact List.modify_eq_self behind
  rw [FileReport.observe, same]

theorem observeExample_of_missing {e : Example} {report : Report}
    (missing : ∀ record ∈ report.examplesIn e.location.uri,
      FileReport.isAt e.location record = false) (made : Observation) :
    report.observeExample e made = report := by
  refine modifyFile_of_fixed fun file found => ?_
  have none : file.examples.find? (FileReport.isAt e.location) = none := by
    refine List.find?_eq_none.mpr fun record member => ?_
    have inside : record ∈ report.examplesIn e.location.uri := by
      simpa [examplesIn, found] using member
    simp [missing record inside]
  rw [FileReport.observeExample, modifyFirst_of_none none]

/-- From `before` to `after` the observation came in, under `name` at `place`, and nothing
    else changed. -/
structure GainsOne (place : Place) (name : String) (made : Observation) (before after : Report) :
    Prop where
  gained : after.observed place name = before.observed place name ++ [made]
  names : ∀ other, other ≠ name → after.observed place other = before.observed place other
  places : ∀ other, other ≠ place → after.record? other = before.record? other
  uris : after.uris = before.uris

/-- The record at the place gains the observation; a new record has none before. -/
theorem GainsOne.of_record {place : Place} {name : String} {made : Observation}
    {before after : Report} (fresh : Probe) (uris : after.uris = before.uris)
    (places : ∀ other, other ≠ place → after.record? other = before.record? other)
    (here : after.record? place =
      some (((before.record? place).getD { probe := fresh }).add name made)) :
    GainsOne place name made before after := by
  have old : ∀ called, before.observed place called =
      ((before.record? place).getD { probe := fresh }).observed called := by
    intro called
    unfold observed
    cases before.record? place <;> rfl
  refine ⟨?_, ?_, places, uris⟩
  · rw [old, observed, here]
    simp
  · intro other different
    rw [old, observed, here]
    simp [Record.observed_add_of_ne different]

theorem observe_gains {uri : String} {line index : Nat} {report : Report} {record : Record}
    (found : report.record? (.atLine uri line index) = some record) (name : String)
    (made : Observation) :
    GainsOne (.atLine uri line index) name made report
      (report.observe uri line index name made) := by
  refine .of_record record.probe (uris_observe ..) (fun other elsewhere => ?_) ?_
  · rw [record?_observe, if_neg elsewhere]
  · rw [record?_observe, if_pos rfl, found]
    rfl

theorem observeExample_gains {e : Example} {report : Report} {record : Record}
    (member : record ∈ report.examplesIn e.location.uri)
    (located : FileReport.isAt e.location record) (made : Observation) :
    GainsOne (report.ownPlace e) e.name made report (report.observeExample e made) := by
  have inside := List.findIdx_lt_length_of_exists ⟨record, member, located⟩
  have found : report.record? (report.ownPlace e) = some _ := List.getElem?_eq_getElem inside
  refine .of_record record.probe (uris_observeExample ..) (fun other elsewhere => ?_) ?_
  · rw [record?_observeExample, if_neg elsewhere]
  · rw [record?_observeExample, if_pos rfl, found]
    rfl

theorem observeOrphan_gains {uri : String} {report : Report} (registered : uri ∈ report.uris)
    (line : Nat) (name : String) (made : Observation) :
    GainsOne (report.orphanPlace uri line) name made report
      (report.observeOrphan uri line name made) := by
  refine .of_record (.orphan line) (uris_observeOrphan ..) (fun other elsewhere => ?_) ?_
  · rw [record?_observeOrphan _ _ _ _ registered, if_neg elsewhere]
  · rw [record?_observeOrphan _ _ _ _ registered, if_pos rfl]

end Report

namespace Change
open Report

section AtLine
variable {uri : String} {report : Report} (line : Nat) (change : Report → Report)

theorem atLine_of_unregistered (missing : uri ∉ report.uris) :
    (atLine uri line change).run report = .ok () report := by
  have none : (report.file? uri).isSome = false := by
    rw [(file?_eq_none_iff uri).mpr missing]
    rfl
  show (if (report.file? uri).isSome then (do numbered line; modify change)
    else pure () : EStateM LineMisuse Report Unit).run report = _
  rw [none]
  rfl

theorem atLine_of_registered (registered : uri ∈ report.uris) :
    (atLine uri line change).run report =
      if line = 0 then .error .trigger report else .ok () (change report) := by
  have found := (file?_isSome_iff uri).mpr registered
  show (if (report.file? uri).isSome then (do numbered line; modify change)
    else pure () : EStateM LineMisuse Report Unit).run report = _
  rw [if_pos found]
  unfold numbered
  split <;> rfl

end AtLine

section
variable (uri : String) (line : Nat) (report : Report)

theorem run_probe (probe : Probe) : (Change.probe uri line probe).run.run report =
    if line = 0 then .error .trigger report else .ok () (report.addProbe uri line probe) := by
  have checked : (Change.probe uri line probe).run.run report =
      if line = 0 then .error .trigger report
      else (atLine uri line (·.addProbe uri line probe)).run report := by
    show (do numbered line; atLine uri line (·.addProbe uri line probe) :
      EStateM LineMisuse Report Unit).run report = _
    unfold numbered
    split <;> rfl
  rw [checked]
  by_cases registered : uri ∈ report.uris
  · rw [atLine_of_registered line _ registered]
    split <;> rfl
  · have nothing : report.addProbe uri line probe = report :=
      modifyFile_of_unregistered _ registered
    rw [atLine_of_unregistered line _ registered, nothing]

theorem run_orphan (name : String) (made : Observation) :
    (Change.orphan uri line name made).run.run report =
      if line = 0 ∧ uri ∈ report.uris then .error .trigger report
      else .ok () (report.observeOrphan uri line name made) := by
  by_cases registered : uri ∈ report.uris
  · simp only [registered, and_true]
    exact atLine_of_registered line _ registered
  · have nothing := observeOrphan_of_unregistered uri line name made registered
    rw [if_neg fun both => registered both.2, nothing]
    exact atLine_of_unregistered line _ registered

theorem applied_probe (probe : Probe) : (Change.probe uri line probe).applied report =
    if line = 0 then report else report.addProbe uri line probe := by
  unfold applied
  rw [run_probe]
  by_cases zero : line = 0 <;> simp [zero]

theorem applied_orphan (name : String) (made : Observation) :
    (Change.orphan uri line name made).applied report =
      if line = 0 then report else report.observeOrphan uri line name made := by
  unfold applied
  rw [run_orphan]
  by_cases zero : line = 0
  · by_cases registered : uri ∈ report.uris
    · simp [zero, registered]
    · simp [zero, registered, observeOrphan_of_unregistered]
  · simp [zero]

end

/-- Whether the change finds nothing to do: what it names is not there, or is there already
    in the case of a file, or its line is 0. -/
def Dropped (report : Report) : Change → Prop
  | .file uri _ => uri ∈ report.uris
  | .example _ => False
  | .probe uri line _ => line = 0 ∨ uri ∉ report.uris
  | .observation uri line index _ _ => report.record? (.atLine uri line index) = none
  | .exampleObservation e _ =>
    ∀ record ∈ report.examplesIn e.location.uri, FileReport.isAt e.location record = false
  | .orphan uri line _ _ => line = 0 ∨ uri ∉ report.uris

/-- What a change observes, if it makes an observation: at which place, for which example. -/
def observes? (report : Report) : Change → Option (Place × String × Observation)
  | .observation uri line index name made => some (.atLine uri line index, name, made)
  | .exampleObservation e made => some (report.ownPlace e, e.name, made)
  | .orphan uri line name made => some (report.orphanPlace uri line, name, made)
  | _ => none

theorem applied_of_dropped {report : Report} {change : Change} (dropped : change.Dropped report) :
    change.applied report = report := by
  cases change with
  | file uri languageId =>
    have registered := (file?_isSome_iff uri).mpr dropped
    exact if_pos registered
  | «example» e => cases dropped
  | probe uri line p =>
    rw [applied_probe]
    rcases dropped with zero | missing
    · rw [if_pos zero]
    · rw [addProbe, modifyFile_of_unregistered _ missing, ite_self]
  | observation uri line index name made => exact observe_of_missing dropped name made
  | exampleObservation e made => exact observeExample_of_missing dropped made
  | orphan uri line name made =>
    rw [applied_orphan]
    rcases dropped with zero | missing
    · rw [if_pos zero]
    · rw [observeOrphan_of_unregistered uri line name made missing, ite_self]

theorem dropped_of_refused {report : Report} {change : Change} {misuse : LineMisuse}
    (refused : change.apply report = .error misuse) : change.Dropped report := by
  cases change with
  | probe uri line p =>
    by_cases zero : line = 0
    · exact Or.inl zero
    · simp [apply, run_probe, zero] at refused
  | orphan uri line name made =>
    by_cases zero : line = 0
    · exact Or.inl zero
    · simp [apply, run_orphan, zero] at refused
  | file | «example» | observation | exampleObservation => cases refused

theorem applied_gains {report : Report} {change : Change} {place : Place} {name : String}
    {made : Observation} (observes : change.observes? report = some (place, name, made))
    (done : ¬ change.Dropped report) : GainsOne place name made report (change.applied report) := by
  cases change with
  | file | «example» | probe => cases observes
  | observation uri line index called observation =>
    obtain ⟨record, found⟩ := Option.ne_none_iff_exists'.mp done
    cases observes
    exact observe_gains found name made
  | exampleObservation e observation =>
    have located : ∃ record ∈ report.examplesIn e.location.uri,
        FileReport.isAt e.location record := by simpa [Dropped] using done
    obtain ⟨record, member, here⟩ := located
    cases observes
    exact observeExample_gains member here made
  | orphan uri line called observation =>
    have heard : line ≠ 0 ∧ uri ∈ report.uris := by simpa [Dropped] using done
    cases observes
    rw [applied_orphan, if_neg heard.1]
    exact observeOrphan_gains heard.2 line name made

end Change
end ExampleProbes
