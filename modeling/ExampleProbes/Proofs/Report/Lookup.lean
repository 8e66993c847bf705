import ExampleProbes.Report.Basic

/-!
What a report shows at a place, `recordsAt` for a trigger line and `examplesIn` for a file,
and what each change of a report does to it. Every change touches one place and leaves all
others as they were.
-/
namespace ExampleProbes

namespace Ledger
variable {κ ν : Type} [DecidableEq κ]

@[simp] theorem get?_upsert_self (key : κ) (change : ν → ν) (new : ν) (ledger : Ledger κ ν) :
    get? key (upsert key change new ledger) = some ((get? key ledger).elim new change) := by
  induction ledger with
  | nil => simp [upsert, get?]
  | cons entry rest ih =>
    by_cases same : entry.1 = key
    · simp [upsert, get?, same]
    · simp [upsert, get?, same, ih]

theorem get?_upsert_of_ne {key other : κ} (different : other ≠ key) (change : ν → ν) (new : ν)
    (ledger : Ledger κ ν) : get? other (upsert key change new ledger) = get? other ledger := by
  induction ledger with
  | nil => simp [upsert, get?, Ne.symm different]
  | cons entry rest ih =>
    by_cases same : entry.1 = key
    · have here : entry.1 ≠ other := same ▸ Ne.symm different
      simp [upsert, get?, same, Ne.symm different]
    · by_cases found : entry.1 = other
      · simp [upsert, get?, found, different]
      · simp [upsert, get?, same, found, ih]

@[simp] theorem get?_modify_self (key : κ) (change : ν → ν) (ledger : Ledger κ ν) :
    get? key (modify key change ledger) = (get? key ledger).map change := by
  induction ledger with
  | nil => rfl
  | cons entry rest ih =>
    by_cases same : entry.1 = key
    · simp [modify, get?, same]
    · simp [modify, get?, same, ih]

theorem get?_modify_of_ne {key other : κ} (different : other ≠ key) (change : ν → ν)
    (ledger : Ledger κ ν) : get? other (modify key change ledger) = get? other ledger := by
  induction ledger with
  | nil => rfl
  | cons entry rest ih =>
    by_cases same : entry.1 = key
    · simp [modify, get?, same, Ne.symm different]
    · by_cases found : entry.1 = other
      · simp [modify, get?, found, different]
      · simp [modify, get?, same, found, ih]

/-- What is put in changes the value that is there, or stands at the end. -/
theorem upsert_eq_append (key : κ) (change : ν → ν) (new : ν) (ledger : Ledger κ ν) :
    upsert key change new ledger =
      modify key change ledger ++ if (get? key ledger).isSome then [] else [(key, new)] := by
  induction ledger with
  | nil => rfl
  | cons entry rest ih =>
    by_cases same : entry.1 = key
    · simp [upsert, modify, get?, same]
    · simp [upsert, modify, get?, same, ih]

end Ledger

section ModifyFirst
variable {α β : Type} {p : α → Bool} {change : α → α}

theorem find?_modifyFirst_self (kept : ∀ a, p a → p (change a)) (xs : List α) :
    (modifyFirst p change xs).find? p = (xs.find? p).map change := by
  induction xs with
  | nil => rfl
  | cons a rest ih =>
    by_cases first : p a
    · simp [modifyFirst, first, kept a first]
    · simp [modifyFirst, first, ih]

theorem find?_modifyFirst_of_not {q : α → Bool} (before : ∀ a, p a → q a = false)
    (after : ∀ a, p a → q (change a) = false) (xs : List α) :
    (modifyFirst p change xs).find? q = xs.find? q := by
  induction xs with
  | nil => rfl
  | cons a rest ih =>
    by_cases first : p a
    · simp [modifyFirst, first, before a first, after a first]
    · simp [modifyFirst, first, List.find?_cons, ih]

theorem map_modifyFirst {f : α → β} (kept : ∀ a, f (change a) = f a) (xs : List α) :
    (modifyFirst p change xs).map f = xs.map f := by
  induction xs with
  | nil => rfl
  | cons a rest ih =>
    simp only [modifyFirst]
    split
    · simp [kept]
    · simp [ih]

theorem map_modifyFirst_comm {f : α → β} {q : β → Bool} {after : β → β}
    (tested : ∀ a, q (f a) = p a) (changed : ∀ a, f (change a) = after (f a)) (xs : List α) :
    (modifyFirst p change xs).map f = modifyFirst q after (xs.map f) := by
  induction xs with
  | nil => rfl
  | cons a rest ih =>
    simp only [modifyFirst, List.map_cons, tested]
    split
    · simp [changed]
    · simp [ih]

end ModifyFirst

namespace Record

@[simp] theorem add_probe (name : String) (observation : Observation) (record : Record) :
    (record.add name observation).probe = record.probe := rfl

@[simp] theorem observed_add_self (name : String) (observation : Observation)
    (record : Record) :
    (record.add name observation).observed name = record.observed name ++ [observation] := by
  simp only [observed, add, Ledger.get?_upsert_self]
  cases Ledger.get? name record.observations <;> rfl

theorem observed_add_of_ne {name other : String} (different : other ≠ name)
    (observation : Observation) (record : Record) :
    (record.add name observation).observed other = record.observed other := by
  simp only [observed, add, Ledger.get?_upsert_of_ne different]

end Record

namespace FileReport

theorem observe_uri (line index : Nat) (name : String) (observation : Observation)
    (file : FileReport) : (file.observe line index name observation).uri = file.uri := rfl

theorem addOrphan_uri (line : Nat) (name : String) (observation : Observation)
    (file : FileReport) : (file.addOrphan line name observation).uri = file.uri := rfl

theorem observeExample_uri (location : Location) (name : String) (observation : Observation)
    (file : FileReport) : (file.observeExample location name observation).uri = file.uri := rfl

end FileReport

namespace Report
variable {report : Report}

def uris (report : Report) : List String := report.files.map (·.uri)

/-- The records at a trigger line; none where the file is not registered. -/
def recordsAt (uri : String) (line : Nat) (report : Report) : List Record :=
  ((report.file? uri).map (·.recordsOn line)).getD []

def examplesIn (uri : String) (report : Report) : List Record :=
  ((report.file? uri).map (·.examples)).getD []

theorem probesAt_eq (uri : String) (line : Nat) (report : Report) :
    report.probesAt uri line = (report.recordsAt uri line).map (·.probe) := by
  unfold probesAt recordsAt
  cases report.file? uri <;> rfl

theorem file?_isSome_iff (uri : String) : (report.file? uri).isSome ↔ uri ∈ report.uris := by
  simp [file?, uris]

theorem file?_eq_none_iff (uri : String) : report.file? uri = none ↔ uri ∉ report.uris := by
  rw [← file?_isSome_iff, Option.not_isSome_iff_eq_none]

theorem recordsAt_of_unregistered {uri : String} (missing : uri ∉ report.uris) (line : Nat) :
    report.recordsAt uri line = [] := by
  rw [recordsAt, (file?_eq_none_iff uri).mpr missing]
  rfl

theorem mem_uris_of_recordsAt {uri : String} {line : Nat}
    (filled : report.recordsAt uri line ≠ []) : uri ∈ report.uris :=
  Decidable.not_not.mp fun missing => filled (recordsAt_of_unregistered missing line)

section ModifyFile
variable {change : FileReport → FileReport}

theorem uris_modifyFile (kept : ∀ file, (change file).uri = file.uri) (uri : String)
    (report : Report) : (report.modifyFile uri change).uris = report.uris :=
  map_modifyFirst kept report.files

theorem file?_modifyFile_self (kept : ∀ file, (change file).uri = file.uri) (uri : String)
    (report : Report) : (report.modifyFile uri change).file? uri = (report.file? uri).map change :=
  find?_modifyFirst_self (fun file => by simp [kept]) report.files

theorem file?_modifyFile_of_ne (kept : ∀ file, (change file).uri = file.uri)
    {uri other : String} (different : other ≠ uri) (report : Report) :
    (report.modifyFile uri change).file? other = report.file? other := by
  refine find?_modifyFirst_of_not ?_ ?_ report.files
  all_goals
    intro file here
    have same : file.uri = uri := by simpa using here
    simp [kept, same, Ne.symm different]

/-- A change of one file is not seen in another, nor where the change leaves what is seen. -/
theorem map_file?_modifyFile {γ : Type} (kept : ∀ file, (change file).uri = file.uri)
    {uri other : String} {view : FileReport → γ}
    (unseen : other = uri → ∀ file, view (change file) = view file) (report : Report) :
    ((report.modifyFile uri change).file? other).map view = (report.file? other).map view := by
  by_cases same : other = uri
  · subst other
    rw [file?_modifyFile_self kept, Option.map_map]
    have equal : view ∘ change = view := funext (unseen rfl)
    rw [equal]
  · rw [file?_modifyFile_of_ne kept same]

end ModifyFile

section Observe
variable (uri : String) (line index : Nat) (name : String) (observation : Observation)

@[simp] theorem uris_observe (report : Report) :
    (report.observe uri line index name observation).uris = report.uris :=
  uris_modifyFile (FileReport.observe_uri line index name observation) uri report

theorem recordsAt_observe_self (report : Report) :
    (report.observe uri line index name observation).recordsAt uri line =
      (report.recordsAt uri line).modify index (·.add name observation) := by
  have kept := FileReport.observe_uri line index name observation
  rw [recordsAt, observe, file?_modifyFile_self kept]
  cases found : report.file? uri with
  | none => simp [recordsAt, found]
  | some file =>
    simp only [recordsAt, found, Option.map_some, Option.getD_some, FileReport.recordsOn,
      FileReport.observe, Ledger.get?_modify_self]
    cases Ledger.get? line file.lines <;> simp

theorem recordsAt_observe_of_ne {otherUri : String} {otherLine : Nat}
    (different : (otherUri, otherLine) ≠ (uri, line)) (report : Report) :
    (report.observe uri line index name observation).recordsAt otherUri otherLine =
      report.recordsAt otherUri otherLine := by
  unfold recordsAt observe
  rw [map_file?_modifyFile (FileReport.observe_uri line index name observation)]
  intro same file
  have lines : otherLine ≠ line := fun equal => different (by rw [same, equal])
  simp [FileReport.recordsOn, FileReport.observe, Ledger.get?_modify_of_ne lines]

@[simp] theorem examplesIn_observe (other : String) (report : Report) :
    (report.observe uri line index name observation).examplesIn other =
      report.examplesIn other := by
  unfold examplesIn observe
  rw [map_file?_modifyFile (FileReport.observe_uri line index name observation)]
  exact fun _ _ => rfl

@[simp] theorem uris_observeOrphan (report : Report) :
    (report.observeOrphan uri line name observation).uris = report.uris :=
  uris_modifyFile (FileReport.addOrphan_uri line name observation) uri report

theorem recordsAt_observeOrphan_self {report : Report} (registered : uri ∈ report.uris) :
    (report.observeOrphan uri line name observation).recordsAt uri line =
      FileReport.observeOrphan line name observation (report.recordsAt uri line) := by
  have kept := FileReport.addOrphan_uri line name observation
  rw [recordsAt, observeOrphan, file?_modifyFile_self kept]
  cases found : report.file? uri with
  | none =>
    have present := (file?_isSome_iff uri).mpr registered
    simp [found] at present
  | some file =>
    simp only [recordsAt, found, Option.map_some, Option.getD_some, FileReport.recordsOn,
      FileReport.addOrphan, Ledger.get?_upsert_self]
    cases Ledger.get? line file.lines <;> rfl

theorem recordsAt_observeOrphan_of_ne {otherUri : String} {otherLine : Nat}
    (different : (otherUri, otherLine) ≠ (uri, line)) (report : Report) :
    (report.observeOrphan uri line name observation).recordsAt otherUri otherLine =
      report.recordsAt otherUri otherLine := by
  unfold recordsAt observeOrphan
  rw [map_file?_modifyFile (FileReport.addOrphan_uri line name observation)]
  intro same file
  have lines : otherLine ≠ line := fun equal => different (by rw [same, equal])
  simp [FileReport.recordsOn, FileReport.addOrphan, Ledger.get?_upsert_of_ne lines]

@[simp] theorem examplesIn_observeOrphan (other : String) (report : Report) :
    (report.observeOrphan uri line name observation).examplesIn other =
      report.examplesIn other := by
  unfold examplesIn observeOrphan
  rw [map_file?_modifyFile (FileReport.addOrphan_uri line name observation)]
  exact fun _ _ => rfl

end Observe

section ObserveExample
variable (e : Example) (observation : Observation) (report : Report)

@[simp] theorem uris_observeExample :
    (report.observeExample e observation).uris = report.uris :=
  uris_modifyFile (FileReport.observeExample_uri e.location e.name observation)
    e.location.uri report

@[simp] theorem recordsAt_observeExample (uri : String) (line : Nat) :
    (report.observeExample e observation).recordsAt uri line = report.recordsAt uri line := by
  unfold recordsAt observeExample
  rw [map_file?_modifyFile (FileReport.observeExample_uri e.location e.name observation)]
  exact fun _ _ => rfl

theorem examplesIn_observeExample (uri : String) :
    (report.observeExample e observation).examplesIn uri =
      if uri = e.location.uri then
        modifyFirst (FileReport.isAt e.location) (·.add e.name observation)
          (report.examplesIn uri)
      else report.examplesIn uri := by
  unfold examplesIn observeExample
  by_cases same : uri = e.location.uri
  · subst uri
    rw [file?_modifyFile_self (FileReport.observeExample_uri e.location e.name observation)]
    cases report.file? e.location.uri with
    | none => simp [modifyFirst]
    | some file => simp [FileReport.observeExample]
  · rw [file?_modifyFile_of_ne (FileReport.observeExample_uri e.location e.name observation) same]
    simp [same]

end ObserveExample

end Report
end ExampleProbes
