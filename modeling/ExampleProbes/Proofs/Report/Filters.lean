import ExampleProbes.Proofs.Report.Placement

/-!
Filtered reports: a record whose probe is for one example only holds observations of no
other. New records hold none, an observation keeps the report filtered where the probe of
its record applies to the example, and the records of examples and orphans have no filter.
-/
namespace ExampleProbes

namespace Probe
variable {probe : Probe}

theorem only?_of_appliesTo {name only : String} (applies : probe.appliesTo name)
    (filter : probe.only? = some only) : only = name := by
  cases probe with
  | ofExample e => cases filter
  | statement | expression | assertion | selection | orphan =>
    simpa [appliesTo, filter] using applies

theorem only?_of_isOrphan (orphan : probe.isOrphan) : probe.only? = none := by
  cases probe with
  | orphan line => rfl
  | ofExample | statement | expression | assertion | selection => cases orphan

end Probe

def Record.Filtered (record : Record) : Prop :=
  ∀ only, record.probe.only? = some only → ∀ entry ∈ record.observations, entry.1 = only

structure FileReport.Filtered (file : FileReport) : Prop where
  examples : ∀ record ∈ file.examples, record.Filtered
  lines : ∀ entry ∈ file.lines, ∀ record ∈ entry.2, record.Filtered

def Report.Filtered (report : Report) : Prop := ∀ file ∈ report.files, file.Filtered

namespace Record.Filtered

theorem new (probe : Probe) : Record.Filtered { probe } := fun _ _ _ member => by cases member

theorem add {record : Record} (filtered : record.Filtered) {name : String}
    (admitted : ∀ only, record.probe.only? = some only → only = name) (made : Observation) :
    (record.add name made).Filtered := by
  intro only filter
  have same : only = name := admitted only filter
  exact Ledger.forall_upsert (filtered only filter) (fun _ _ held => held) same.symm

theorem add_unfiltered {record : Record} (free : record.probe.only? = none) (name : String)
    (made : Observation) : (record.add name made).Filtered := by
  intro only filter
  have both : some only = none := filter.symm.trans free
  cases both

end Record.Filtered

theorem FileReport.Filtered.only?_of_isAt {location : Location} {record : Record}
    (located : isAt location record) : record.probe.only? = none := by
  unfold isAt at located
  split at located
  · rename_i e same
    rw [same]
    rfl
  · cases located

namespace Report
variable {report : Report}

theorem filtered_iff_holds :
    report.Filtered ↔ report.Holds (fun _ => Record.Filtered) fun _ _ => Record.Filtered :=
  ⟨fun filtered file member => ⟨(filtered file member).examples, (filtered file member).lines⟩,
    fun holds file member => ⟨(holds file member).examples, (holds file member).lines⟩⟩

namespace Filtered

theorem empty : Report.Filtered {} := filtered_iff_holds.mpr .empty

variable (filtered : report.Filtered)
include filtered

theorem observe {uri : String} {line index : Nat} {name : String}
    (applies : ∀ record, (report.recordsAt uri line)[index]? = some record →
      record.probe.appliesTo name) (made : Observation) :
    (report.observe uri line index name made).Filtered := by
  have holds := filtered_iff_holds.mp filtered
  refine filtered_iff_holds.mpr (holds.observe fun record here before => ?_)
  exact before.add (fun _ => Probe.only?_of_appliesTo (applies record here)) made

theorem observeExample (e : Example) (made : Observation) :
    (report.observeExample e made).Filtered := by
  have holds := filtered_iff_holds.mp filtered
  refine filtered_iff_holds.mpr (holds.observeExample fun record located _ => ?_)
  exact .add_unfiltered (FileReport.Filtered.only?_of_isAt located) e.name made

theorem observeOrphan (uri : String) (line : Nat) (name : String) (made : Observation) :
    (report.observeOrphan uri line name made).Filtered := by
  have holds := filtered_iff_holds.mp filtered
  refine filtered_iff_holds.mpr (holds.observeOrphan (.add_unfiltered rfl name made) ?_)
  exact fun record orphan _ => .add_unfiltered (Probe.only?_of_isOrphan orphan) name made

end Filtered
end Report
end ExampleProbes
