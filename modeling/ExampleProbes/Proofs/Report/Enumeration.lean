import ExampleProbes.Report.ToJson
import ExampleProbes.Proofs.Report.Soundness

/-!
The lists that are read off a sound report. Its files stand in the order of their first
registration, and the trigger lines of a file in the order in which they were first claimed;
the lines for an example are those of them that hold a record for it. The written report
shows the record of every place, each once.
-/
namespace ExampleProbes

namespace Ledger
variable {κ ν : Type} [DecidableEq κ] {key : κ} {value : ν} {ledger : Ledger κ ν}

theorem mem_of_get? (found : get? key ledger = some value) : (key, value) ∈ ledger := by
  induction ledger with
  | nil => cases found
  | cons entry rest ih =>
    by_cases here : entry.1 = key
    · obtain rfl : entry.2 = value := by simpa [get?, here] using found
      rw [← here]
      exact List.mem_cons_self
    · exact List.mem_cons_of_mem _ (ih (by simpa [get?, here] using found))

theorem get?_of_mem (distinct : (keys ledger).Nodup) (member : (key, value) ∈ ledger) :
    get? key ledger = some value := by
  induction ledger with
  | nil => cases member
  | cons entry rest ih =>
    obtain ⟨absent, tail⟩ := List.nodup_cons.mp distinct
    rcases List.mem_cons.mp member with same | later
    · simp [get?, ← same]
    · have elsewhere : entry.1 ≠ key := by
        intro here
        exact absent (here ▸ List.mem_map_of_mem later)
      simpa [get?, elsewhere] using ih tail later

end Ledger

namespace FileReport

/-- The places of the records of a file, in the order in which they are written. -/
def places (file : FileReport) : List Place :=
  (List.range file.examples.length).map (.inExamples file.uri) ++
    file.lines.flatMap fun entry => (List.range entry.2.length).map (.atLine file.uri entry.1)

theorem mem_places_examples (file : FileReport) (uri : String) (index : Nat) :
    .inExamples uri index ∈ file.places ↔ uri = file.uri ∧ index < file.examples.length := by
  simp [places]
  tauto

theorem mem_places_lines (file : FileReport) (uri : String) (line index : Nat) :
    .atLine uri line index ∈ file.places ↔
      uri = file.uri ∧ ∃ records, (line, records) ∈ file.lines ∧ index < records.length := by
  simp [places]
  tauto

end FileReport

theorem filterMap_getElem?_range {α : Type} (xs : List α) :
    (List.range xs.length).filterMap (xs[·]?) = xs := by
  induction xs with
  | nil => rfl
  | cons a rest ih => simp [List.range_succ_eq_map, List.filterMap_map, ih]

namespace Report
variable {report : Report} {file : FileReport}

def triggers (report : Report) : List (String × Nat) :=
  report.files.flatMap fun file => file.lines.keys.map (file.uri, ·)

def places (report : Report) : List Place := report.files.flatMap FileReport.places

theorem mem_of_file? {uri : String} (found : report.file? uri = some file) :
    file ∈ report.files ∧ file.uri = uri :=
  ⟨List.mem_of_find?_eq_some found, by simpa using List.find?_some found⟩

namespace Sound
variable (sound : report.Sound)
include sound

theorem apart : report.files.Pairwise fun a b => a.uri ≠ b.uri :=
  List.pairwise_map.mp sound.uris

theorem file?_of_mem (member : file ∈ report.files) : report.file? file.uri = some file := by
  obtain ⟨other, found⟩ := Option.isSome_iff_exists.mp
    ((file?_isSome_iff file.uri).mpr (List.mem_map_of_mem member))
  obtain ⟨present, same⟩ := mem_of_file? found
  rw [found, List.inj_on_of_nodup_map sound.uris present member same]

theorem examplesIn_of_mem (member : file ∈ report.files) :
    report.examplesIn file.uri = file.examples := by
  simp [examplesIn, sound.file?_of_mem member]

theorem recordsAt_of_mem (member : file ∈ report.files) {line : Nat} {records : List Record}
    (stands : (line, records) ∈ file.lines) : report.recordsAt file.uri line = records := by
  have found := Ledger.get?_of_mem (sound.files file member).lines stands
  simp [recordsAt, sound.file?_of_mem member, FileReport.recordsOn, found]

/-- The places of a file give its records, one after the other. -/
theorem filterMap_places (member : file ∈ report.files) :
    file.places.filterMap report.record? = file.records := by
  unfold FileReport.places FileReport.records
  rw [List.filterMap_append, List.filterMap_map, List.filterMap_flatMap]
  congr 1
  · have same : report.record? ∘ Place.inExamples file.uri = (file.examples[·]?) := by
      funext index
      simp [record?, sound.examplesIn_of_mem member]
    rw [same, filterMap_getElem?_range]
  · refine List.flatMap_congr fun entry stands => ?_
    have same : report.record? ∘ Place.atLine file.uri entry.1 = (entry.2[·]?) := by
      funext index
      simp [record?, sound.recordsAt_of_mem member stands]
    rw [List.filterMap_map, same, filterMap_getElem?_range]

theorem mem_places_iff (place : Place) :
    place ∈ report.places ↔ (report.record? place).isSome := by
  rw [places, List.mem_flatMap]
  cases place with
  | inExamples uri index =>
    simp only [FileReport.mem_places_examples, record?, isSome_getElem?]
    constructor
    · rintro ⟨file, member, rfl, inside⟩
      simpa [sound.examplesIn_of_mem member] using inside
    · intro inside
      cases found : report.file? uri with
      | none => simp [examplesIn, found] at inside
      | some file =>
        obtain ⟨member, rfl⟩ := mem_of_file? found
        exact ⟨file, member, rfl, by simpa [examplesIn, found] using inside⟩
  | atLine uri line index =>
    simp only [FileReport.mem_places_lines, record?, isSome_getElem?]
    constructor
    · rintro ⟨file, member, rfl, records, stands, inside⟩
      simpa [sound.recordsAt_of_mem member stands] using inside
    · intro inside
      cases found : report.file? uri with
      | none => simp [recordsAt, found] at inside
      | some file =>
        obtain ⟨member, rfl⟩ := mem_of_file? found
        cases here : Ledger.get? line file.lines with
        | none => simp [recordsAt, found, FileReport.recordsOn, here] at inside
        | some records =>
          refine ⟨file, member, rfl, records, Ledger.mem_of_get? here, ?_⟩
          simpa [recordsAt, found, FileReport.recordsOn, here] using inside

theorem places_nodup : report.places.Nodup := by
  refine List.nodup_flatMap.mpr ⟨fun file member => ?_, ?_⟩
  · refine List.nodup_append'.mpr ⟨?_, List.nodup_flatMap.mpr ⟨fun entry _ => ?_, ?_⟩, ?_⟩
    · exact List.nodup_range.map fun a b same => (Place.inExamples.inj same).2
    · exact List.nodup_range.map fun a b same => (Place.atLine.inj same).2.2
    · refine (List.pairwise_map.mp (sound.files file member).lines).imp fun different => ?_
      intro place first second
      obtain ⟨_, _, rfl⟩ := List.mem_map.mp first
      obtain ⟨_, _, same⟩ := List.mem_map.mp second
      exact different (Place.atLine.inj same).2.1.symm
    · intro place first second
      obtain ⟨_, _, rfl⟩ := List.mem_map.mp first
      simp at second
  · refine sound.apart.imp fun different => ?_
    intro place first second
    cases place with
    | inExamples uri index =>
      have left := ((FileReport.mem_places_examples _ _ _).mp first).1
      have right := ((FileReport.mem_places_examples _ _ _).mp second).1
      exact different (left.symm.trans right)
    | atLine uri line index =>
      have left := ((FileReport.mem_places_lines _ _ _ _).mp first).1
      have right := ((FileReport.mem_places_lines _ _ _ _).mp second).1
      exact different (left.symm.trans right)

theorem triggers_nodup : report.triggers.Nodup := by
  refine List.nodup_flatMap.mpr ⟨fun file member => ?_, sound.apart.imp fun different => ?_⟩
  · exact (sound.files file member).lines.map fun a b same => (Prod.mk.inj same).2
  · intro place first second
    obtain ⟨_, _, rfl⟩ := List.mem_map.mp first
    obtain ⟨_, _, same⟩ := List.mem_map.mp second
    exact different (Prod.mk.inj same).1.symm

/-- The lines for an example are the trigger lines that hold a record for it, in order. -/
theorem linesFor_eq_filter (name : String) :
    report.linesFor name = report.triggers.filter fun place =>
      (report.recordsAt place.1 place.2).any (·.probe.appliesTo name) := by
  rw [triggers, List.filter_flatMap]
  refine List.flatMap_congr fun file member => ?_
  unfold FileReport.linesFor Ledger.keys
  rw [List.map_map, List.map_map, List.filter_map]
  congr 1
  refine List.filter_congr fun entry stands => ?_
  simp [sound.recordsAt_of_mem member stands]

omit sound in
theorem mem_triggers {uri : String} {line : Nat} {record : Record}
    (stands : record ∈ report.recordsAt uri line) : (uri, line) ∈ report.triggers := by
  cases found : report.file? uri with
  | none => simp [recordsAt, found] at stands
  | some file =>
    obtain ⟨member, rfl⟩ := mem_of_file? found
    cases here : Ledger.get? line file.lines with
    | none => simp [recordsAt, found, FileReport.recordsOn, here] at stands
    | some records =>
      have key : line ∈ file.lines.keys := List.mem_map_of_mem (Ledger.mem_of_get? here)
      exact List.mem_flatMap.mpr ⟨file, member, List.mem_map_of_mem key⟩

theorem mem_linesFor_iff (name uri : String) (line : Nat) :
    (uri, line) ∈ report.linesFor name ↔
      ∃ record ∈ report.recordsAt uri line, record.probe.appliesTo name := by
  rw [sound.linesFor_eq_filter, List.mem_filter, List.any_eq_true]
  constructor
  · exact fun both => both.2
  · rintro ⟨record, stands, applies⟩
    exact ⟨mem_triggers stands, record, stands, applies⟩

theorem toJson_eq : report.toJson = .object [("files", .array (report.files.map fun file =>
    .object [("uri", .string file.uri), ("languageId", .string file.languageId),
      ("probes", .array ((file.places.filterMap report.record?).map Record.toJson))]))] := by
  unfold toJson filesJson
  congr 4
  refine List.map_congr_left fun file member => ?_
  rw [sound.filterMap_places member, FileReport.toJson]

end Sound
end Report
end ExampleProbes
