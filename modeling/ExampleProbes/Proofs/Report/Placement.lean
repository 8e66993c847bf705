import ExampleProbes.Proofs.Report.Soundness

/-!
What holds of every record of a report, by where it stands: in the list of examples of a file,
or on one of its lines. Each change puts in a record or lets some gain an observation, and
keeps such a property where it holds of these records.
-/
namespace ExampleProbes

/-- The records in the list of the examples satisfy `own`, those on a line `onLine` for it. -/
structure FileReport.Holds (own : Record → Prop) (onLine : Nat → Record → Prop)
    (file : FileReport) : Prop where
  examples : ∀ record ∈ file.examples, own record
  lines : ∀ entry ∈ file.lines, ∀ record ∈ entry.2, onLine entry.1 record

def Report.Holds (own : String → Record → Prop) (onLine : String → Nat → Record → Prop)
    (report : Report) : Prop :=
  ∀ file ∈ report.files, file.Holds (own file.uri) (onLine file.uri)

namespace FileReport.Holds
variable {own : Record → Prop} {onLine : Nat → Record → Prop} {file : FileReport}

theorem new (uri languageId : String) :
    FileReport.Holds own onLine { uri, languageId } where
  examples _ member := by cases member
  lines _ member := by cases member

variable (holds : file.Holds own onLine) {line : Nat} {name : String} {made : Observation}
include holds

theorem addExample {e : Example} (fresh : own { probe := .ofExample e }) :
    (file.addExample e).Holds own onLine where
  examples := List.forall_mem_append.mpr ⟨holds.examples, List.forall_mem_singleton.mpr fresh⟩
  lines := holds.lines

theorem addProbe {probe : Probe} (fresh : onLine line { probe }) :
    (file.addProbe line probe).Holds own onLine where
  examples := holds.examples
  lines := by
    have alone := List.forall_mem_singleton.mpr fresh
    exact Ledger.forall_upsert holds.lines
      (fun _ _ held => List.forall_mem_append.mpr ⟨held, alone⟩) alone

theorem observe {index : Nat}
    (gains : ∀ record, (file.recordsOn line)[index]? = some record → onLine line record →
      onLine line (record.add name made)) :
    (file.observe line index name made).Holds own onLine where
  examples := holds.examples
  lines := by
    refine Ledger.forall_modify holds.lines fun records found held => ?_
    exact forall_modify_at held fun record here => gains record (by simp [recordsOn, found, here])

theorem observeExample {location : Location}
    (gains : ∀ record, isAt location record → own record → own (record.add name made)) :
    (file.observeExample location name made).Holds own onLine where
  examples := forall_modifyFirst holds.examples fun record found =>
    gains record (List.find?_some found)
  lines := holds.lines

theorem addOrphan (fresh : onLine line (Record.add name made { probe := .orphan line }))
    (gains : ∀ record, record.probe.isOrphan → onLine line record →
      onLine line (record.add name made)) :
    (file.addOrphan line name made).Holds own onLine where
  examples := holds.examples
  lines := by
    have all : ∀ records : List Record, (∀ record ∈ records, onLine line record) →
        ∀ record ∈ FileReport.observeOrphan line name made records, onLine line record :=
      fun _ held => forall_observeOrphan held fresh gains
    exact Ledger.forall_upsert holds.lines (fun records _ held => all records held)
      (all [] (List.forall_mem_nil _))

end FileReport.Holds

namespace Report.Holds
variable {own : String → Record → Prop} {onLine : String → Nat → Record → Prop} {report : Report}

theorem empty : Report.Holds own onLine {} := fun _ member => by cases member

variable (holds : report.Holds own onLine) {uri : String} {line : Nat} {name : String}
  {made : Observation}
include holds

theorem modifyFile {change : FileReport → FileReport}
    (kept : ∀ file, (change file).uri = file.uri)
    (changed : ∀ file, report.file? uri = some file → file.Holds (own uri) (onLine uri) →
      (change file).Holds (own uri) (onLine uri)) :
    (report.modifyFile uri change).Holds own onLine := by
  refine forall_modifyFirst holds fun file found held => ?_
  obtain rfl : file.uri = uri := by simpa using List.find?_some found
  rw [kept file]
  exact changed file found held

theorem register (uri languageId : String) :
    (report.register uri languageId).Holds own onLine := by
  unfold Report.register
  split
  · exact holds
  · exact List.forall_mem_append.mpr ⟨holds, List.forall_mem_singleton.mpr (.new uri languageId)⟩

theorem addExample {e : Example} (fresh : own e.location.uri { probe := .ofExample e }) :
    (report.addExample e).Holds own onLine :=
  (holds.register _ _).modifyFile (fun _ => rfl) fun _ _ held => held.addExample fresh

theorem addProbe {probe : Probe} (fresh : onLine uri line { probe }) :
    (report.addProbe uri line probe).Holds own onLine :=
  holds.modifyFile (fun _ => rfl) fun _ _ held => held.addProbe fresh

theorem observe {index : Nat}
    (gains : ∀ record, (report.recordsAt uri line)[index]? = some record →
      onLine uri line record → onLine uri line (record.add name made)) :
    (report.observe uri line index name made).Holds own onLine :=
  holds.modifyFile (fun _ => rfl) fun file found held => held.observe fun record here =>
    gains record (by simp [recordsAt, found, here])

theorem observeExample {e : Example}
    (gains : ∀ record, FileReport.isAt e.location record → own e.location.uri record →
      own e.location.uri (record.add e.name made)) :
    (report.observeExample e made).Holds own onLine :=
  holds.modifyFile (fun _ => rfl) fun _ _ held => held.observeExample gains

theorem observeOrphan (fresh : onLine uri line (Record.add name made { probe := .orphan line }))
    (gains : ∀ record, record.probe.isOrphan → onLine uri line record →
      onLine uri line (record.add name made)) :
    (report.observeOrphan uri line name made).Holds own onLine :=
  holds.modifyFile (fun _ => rfl) fun _ _ held => held.addOrphan fresh gains

end Report.Holds
end ExampleProbes
