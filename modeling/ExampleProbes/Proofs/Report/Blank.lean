import ExampleProbes.Proofs.Report.History

/-!
A report without its observations. To observe something leaves the blank report as it is,
and an orphan claims its line in it. Where no file stands twice, changes of single files are
made file by file, so that a file of the end is its file of the beginning with all that was
done to it.
-/
namespace ExampleProbes

theorem map_modifyFirst_found {α β : Type} {p : α → Bool} {q : β → Bool} {change : α → α}
    (f : α → β) (after : β → β) (tested : ∀ a, q (f a) = p a) {xs : List α}
    (changed : ∀ a, xs.find? p = some a → f (change a) = after (f a)) :
    (modifyFirst p change xs).map f = modifyFirst q after (xs.map f) := by
  induction xs with
  | nil => rfl
  | cons a rest ih =>
    by_cases here : p a
    · simp [modifyFirst, tested, here, changed a (by simp [here])]
    · have later := ih fun b found => changed b (by simpa [here] using found)
      simp [modifyFirst, tested, here, later]

/-- Where no key stands twice, the first member with a key is every member with it. -/
theorem modifyFirst_eq_map {α κ : Type} [BEq κ] [LawfulBEq κ] [DecidableEq κ] {key : α → κ} {k : κ}
    (change : α → α) {xs : List α} (distinct : (xs.map key).Nodup) :
    modifyFirst (fun a => key a == k) change xs =
      xs.map fun a => if key a = k then change a else a := by
  induction xs with
  | nil => rfl
  | cons a rest ih =>
    obtain ⟨absent, others⟩ := List.nodup_cons.mp distinct
    by_cases here : key a = k
    · have untouched : rest.map (fun b => if key b = k then change b else b) = rest := by
        rw [List.map_congr_left (g := id), List.map_id]
        intro b member
        have elsewhere : key b ≠ k := by
          intro same
          exact absent (here.trans same.symm ▸ List.mem_map_of_mem member)
        simp [elsewhere]
      simp [modifyFirst, here, untouched]
    · simp [modifyFirst, here, ih others]

namespace Ledger
variable {κ ν : Type} [DecidableEq κ] {key : κ} {change : ν → ν}

theorem upsert_of_not_mem {new : ν} {ledger : Ledger κ ν} (absent : key ∉ keys ledger) :
    upsert key change new ledger = ledger ++ [(key, new)] := by
  induction ledger with
  | nil => rfl
  | cons entry rest ih =>
    simp only [keys_cons, List.mem_cons, not_or] at absent
    simp [upsert, Ne.symm absent.1, ih absent.2]

theorem get?_map {μ : Type} (f : ν → μ) (ledger : Ledger κ ν) :
    get? key (ledger.map fun entry => (entry.1, f entry.2)) = (get? key ledger).map f := by
  induction ledger with
  | nil => rfl
  | cons entry rest ih =>
    by_cases here : entry.1 = key <;> simp [get?, here, ih]

theorem map_modify {μ : Type} {f : ν → μ} (kept : ∀ value, f (change value) = f value)
    (ledger : Ledger κ ν) :
    (modify key change ledger).map (fun entry => (entry.1, f entry.2)) =
      ledger.map fun entry => (entry.1, f entry.2) := by
  induction ledger with
  | nil => rfl
  | cons entry rest ih =>
    by_cases here : entry.1 = key <;> simp [modify, here, kept, ih]

theorem map_upsert {μ : Type} (f : ν → μ) (after : μ → μ) (new : ν) {ledger : Ledger κ ν}
    (changed : ∀ value, get? key ledger = some value → f (change value) = after (f value)) :
    (upsert key change new ledger).map (fun entry => (entry.1, f entry.2)) =
      upsert key after (f new) (ledger.map fun entry => (entry.1, f entry.2)) := by
  induction ledger with
  | nil => rfl
  | cons entry rest ih =>
    by_cases here : entry.1 = key
    · simp [upsert, here, changed entry.2 (by simp [get?, here])]
    · have later := ih fun value found => changed value (by simpa [get?, here] using found)
      simp [upsert, here, later]

end Ledger

def Record.blank (record : Record) : Record := { probe := record.probe }

namespace FileReport

def blank (file : FileReport) : FileReport :=
  { file with
    examples := file.examples.map Record.blank
    lines := file.lines.map fun entry => (entry.1, entry.2.map Record.blank) }

/-- A file after something was fired on a line: one that had no record has an orphan. -/
def claiming (line : Nat) (file : FileReport) : FileReport :=
  if line ≠ 0 ∧ file.recordsOn line = [] then file.addProbe line (.orphan line) else file

theorem claiming_uri (line : Nat) (file : FileReport) : (file.claiming line).uri = file.uri := by
  unfold claiming
  split <;> rfl

theorem recordsOn_blank (line : Nat) (file : FileReport) :
    file.blank.recordsOn line = (file.recordsOn line).map Record.blank := by
  unfold recordsOn blank
  rw [Ledger.get?_map]
  cases Ledger.get? line file.lines <;> rfl

theorem blank_observe (line index : Nat) (name : String) (made : Observation) (file : FileReport) :
    (file.observe line index name made).blank = file.blank := by
  have kept : ∀ records : List Record,
      (records.modify index (·.add name made)).map Record.blank = records.map Record.blank := by
    intro records
    have same := map_probe_modify index name made records
    have erased : Record.blank = (fun probe => { probe }) ∘ fun record : Record => record.probe := rfl
    rw [erased, ← List.map_map, same, List.map_map]
  simp [blank, observe, Ledger.map_modify kept]

theorem blank_observeExample (location : Location) (name : String) (made : Observation)
    (file : FileReport) : (file.observeExample location name made).blank = file.blank := by
  have kept : ∀ record : Record, (record.add name made).blank = record.blank := fun _ => rfl
  simp [blank, observeExample, map_modifyFirst kept]

theorem blank_addOrphan {line : Nat} {file : FileReport} (unclaimed : file.recordsOn line = [])
    (name : String) (made : Observation) :
    (file.addOrphan line name made).blank = file.blank.addProbe line (.orphan line) := by
  have nothing : ∀ records, Ledger.get? line file.lines = some records →
      (observeOrphan line name made records).map Record.blank =
        records.map Record.blank ++ [{ probe := .orphan line }] := by
    intro records found
    obtain rfl : records = [] := by simpa [recordsOn, found] using unclaimed
    rfl
  have lines := Ledger.map_upsert (List.map Record.blank) (· ++ [{ probe := .orphan line }])
    (observeOrphan line name made []) nothing
  simp only [blank, addOrphan, addProbe, lines]
  rfl

theorem claiming_claiming (line : Nat) (file : FileReport) :
    (file.claiming line).claiming line = file.claiming line := by
  by_cases unclaimed : line ≠ 0 ∧ file.recordsOn line = []
  · have once : file.claiming line = file.addProbe line (.orphan line) := if_pos unclaimed
    have filled : (file.addProbe line (.orphan line)).recordsOn line ≠ [] := by
      unfold recordsOn addProbe
      rw [Ledger.get?_upsert_self]
      cases Ledger.get? line file.lines <;> simp
    rw [once, claiming, if_neg fun both => filled both.2]
  · have never : file.claiming line = file := if_neg unclaimed
    rw [never, never]

end FileReport

namespace Report

def blank (report : Report) : Report := ⟨report.files.map FileReport.blank⟩

theorem uris_blank (report : Report) : report.blank.uris = report.uris := by
  simp [uris, blank, FileReport.blank, Function.comp_def]

theorem blank_modifyFile_of_same {change : FileReport → FileReport}
    (kept : ∀ file, (change file).blank = file.blank) (uri : String) (report : Report) :
    (report.modifyFile uri change).blank = report.blank := by
  unfold blank modifyFile
  rw [map_modifyFirst kept]

theorem blank_modifyFile {change after : FileReport → FileReport} {uri : String} {report : Report}
    (changed : ∀ file, report.file? uri = some file → (change file).blank = after file.blank) :
    (report.modifyFile uri change).blank = report.blank.modifyFile uri after := by
  have tested : ∀ file : FileReport, (file.blank.uri == uri) = (file.uri == uri) := fun _ => rfl
  unfold file? at changed
  unfold blank modifyFile
  exact congrArg Report.mk
    (@map_modifyFirst_found _ _ _ (·.uri == uri) _ FileReport.blank after tested _ changed)

theorem blank_observe (uri : String) (line index : Nat) (name : String) (made : Observation)
    (report : Report) : (report.observe uri line index name made).blank = report.blank :=
  blank_modifyFile_of_same (FileReport.blank_observe line index name made) uri report

theorem blank_observeExample (e : Example) (made : Observation) (report : Report) :
    (report.observeExample e made).blank = report.blank :=
  blank_modifyFile_of_same (FileReport.blank_observeExample e.location e.name made) _ report

theorem modifyFile_modifyFile {first second : FileReport → FileReport}
    (kept : ∀ file, (first file).uri = file.uri) (uri : String) (report : Report) :
    (report.modifyFile uri first).modifyFile uri second =
      report.modifyFile uri fun file => second (first file) := by
  unfold modifyFile
  congr 1
  induction report.files with
  | nil => rfl
  | cons file rest ih =>
    by_cases here : file.uri = uri <;> simp [modifyFirst, here, kept, ih]

theorem files_modifyFile {report : Report} (distinct : report.uris.Nodup) (uri : String)
    (change : FileReport → FileReport) :
    (report.modifyFile uri change).files =
      report.files.map fun file => if file.uri = uri then change file else file :=
  modifyFirst_eq_map change distinct

/-- What was done to single files was done to each file on its own. -/
theorem files_foldl_modifyFile {α : Type} {key : α → String} {step : α → FileReport → FileReport}
    (kept : ∀ a file, (step a file).uri = file.uri) (xs : List α) {report : Report}
    (distinct : report.uris.Nodup) :
    (xs.foldl (fun r a => r.modifyFile (key a) (step a)) report).files =
      report.files.map fun file =>
        (xs.filter fun a => key a == file.uri).foldl (fun f a => step a f) file := by
  induction xs generalizing report with
  | nil => simp
  | cons a rest ih =>
    have next : (report.modifyFile (key a) (step a)).uris.Nodup := by
      rwa [uris_modifyFile (kept a)]
    rw [List.foldl_cons, ih next, files_modifyFile distinct, List.map_map]
    refine List.map_congr_left fun file _ => ?_
    by_cases here : file.uri = key a
    · simp [here, kept]
    · simp [here, Ne.symm here]

end Report

end ExampleProbes
