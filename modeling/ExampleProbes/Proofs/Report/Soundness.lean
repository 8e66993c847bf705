import Mathlib.Data.List.Nodup
import ExampleProbes.Proofs.Report.Changes

/-!
Sound reports: no file, trigger line or example name stands twice, lines count from 1, and
no line, no name stands without an entry. The empty report is sound, and every change keeps
a report sound.
-/
namespace ExampleProbes

namespace Ledger
variable {κ ν : Type} [DecidableEq κ] {key : κ} {change : ν → ν} {new : ν}

omit [DecidableEq κ] in
@[simp] theorem keys_cons (entry : κ × ν) (rest : Ledger κ ν) :
    keys (entry :: rest) = entry.1 :: keys rest := rfl

theorem keys_upsert (key : κ) (change : ν → ν) (new : ν) (ledger : Ledger κ ν) :
    keys (upsert key change new ledger) =
      if key ∈ keys ledger then keys ledger else keys ledger ++ [key] := by
  induction ledger with
  | nil => rfl
  | cons entry rest ih =>
    by_cases here : entry.1 = key
    · simp [upsert, here]
    · by_cases later : key ∈ keys rest <;> simp [upsert, here, Ne.symm here, ih, later]

@[simp] theorem keys_modify (key : κ) (change : ν → ν) (ledger : Ledger κ ν) :
    keys (modify key change ledger) = keys ledger := by
  induction ledger with
  | nil => rfl
  | cons entry rest ih =>
    by_cases here : entry.1 = key
    · simp [modify, here]
    · simp [modify, here, ih]

theorem nodup_keys_upsert {ledger : Ledger κ ν} (distinct : (keys ledger).Nodup) :
    (keys (upsert key change new ledger)).Nodup := by
  rw [keys_upsert]
  split
  · exact distinct
  · rename_i absent
    exact List.nodup_append'.mpr
      ⟨distinct, List.nodup_singleton key, List.disjoint_singleton.mpr absent⟩

section Members
variable {P : κ × ν → Prop} {ledger : Ledger κ ν} (held : ∀ entry ∈ ledger, P entry)
  (changed : ∀ value, get? key ledger = some value → P (key, value) → P (key, change value))
include held changed

theorem forall_modify : ∀ entry ∈ modify key change ledger, P entry := by
  induction ledger with
  | nil =>
    intro entry member
    cases member
  | cons first rest ih =>
    obtain ⟨k, value⟩ := first
    obtain ⟨head, tail⟩ := List.forall_mem_cons.mp held
    by_cases here : k = key
    · subst here
      simp only [modify, ↓reduceIte]
      exact List.forall_mem_cons.mpr ⟨changed value (by simp [get?]) head, tail⟩
    · simp only [modify, here, ↓reduceIte]
      have later := ih tail fun next found => changed next (by simpa [get?, here] using found)
      exact List.forall_mem_cons.mpr ⟨head, later⟩

theorem forall_upsert (fresh : P (key, new)) :
    ∀ entry ∈ upsert key change new ledger, P entry := by
  intro entry member
  rw [upsert_eq_append] at member
  rcases List.mem_append.mp member with old | added
  · exact forall_modify held changed entry old
  · split at added
    · cases added
    · obtain rfl := List.mem_singleton.mp added
      exact fresh

end Members

end Ledger

section Members
variable {α : Type} {P : α → Prop} {xs : List α} (held : ∀ a ∈ xs, P a) {change : α → α}
include held

theorem forall_modifyFirst {p : α → Bool}
    (changed : ∀ a, xs.find? p = some a → P a → P (change a)) :
    ∀ a ∈ modifyFirst p change xs, P a := by
  induction xs with
  | nil => exact held
  | cons a rest ih =>
    obtain ⟨head, tail⟩ := List.forall_mem_cons.mp held
    by_cases here : p a
    · simp only [modifyFirst, here, ↓reduceIte]
      exact List.forall_mem_cons.mpr ⟨changed a (by simp [here]) head, tail⟩
    · simp only [modifyFirst, here, Bool.false_eq_true, ↓reduceIte]
      have later := ih tail fun b found => changed b (by simpa [here] using found)
      exact List.forall_mem_cons.mpr ⟨head, later⟩

theorem forall_modify_at {index : Nat}
    (changed : ∀ a, xs[index]? = some a → P a → P (change a)) :
    ∀ a ∈ xs.modify index change, P a := by
  intro a member
  obtain ⟨position, found⟩ := List.mem_iff_getElem?.mp member
  rw [List.getElem?_modify] at found
  obtain ⟨b, before, rfl⟩ := Option.map_eq_some_iff.mp found
  have inside := held b (List.mem_iff_getElem?.mpr ⟨position, before⟩)
  split
  · rename_i here
    exact changed b (here ▸ before) inside
  · exact inside

end Members

theorem forall_observeOrphan {P : Record → Prop} {line : Nat} {name : String} {made : Observation}
    {records : List Record} (held : ∀ record ∈ records, P record)
    (fresh : P (Record.add name made { probe := .orphan line }))
    (changed : ∀ record, record.probe.isOrphan → P record → P (record.add name made)) :
    ∀ record ∈ FileReport.observeOrphan line name made records, P record := by
  induction records with
  | nil => exact List.forall_mem_singleton.mpr fresh
  | cons record rest ih =>
    obtain ⟨head, tail⟩ := List.forall_mem_cons.mp held
    unfold FileReport.observeOrphan
    split
    · rename_i orphan
      exact List.forall_mem_cons.mpr ⟨changed record orphan head, tail⟩
    · exact List.forall_mem_cons.mpr ⟨head, ih tail⟩

structure Record.Sound (record : Record) : Prop where
  names : record.observations.keys.Nodup
  filled : ∀ entry ∈ record.observations, entry.2 ≠ []

structure FileReport.Sound (file : FileReport) : Prop where
  lines : file.lines.keys.Nodup
  numbered : ∀ entry ∈ file.lines, 1 ≤ entry.1
  filled : ∀ entry ∈ file.lines, entry.2 ≠ []
  located : ∀ record ∈ file.examples, ∃ e, record.probe = .ofExample e ∧ e.location.uri = file.uri
  examples : ∀ record ∈ file.examples, record.Sound
  records : ∀ entry ∈ file.lines, ∀ record ∈ entry.2, record.Sound

structure Report.Sound (report : Report) : Prop where
  uris : report.uris.Nodup
  files : ∀ file ∈ report.files, file.Sound

namespace Record.Sound

theorem new (probe : Probe) : Record.Sound { probe } :=
  ⟨List.nodup_nil, fun _ member => by cases member⟩

theorem add {record : Record} (sound : record.Sound) (name : String) (made : Observation) :
    (record.add name made).Sound where
  names := Ledger.nodup_keys_upsert sound.names
  filled := Ledger.forall_upsert sound.filled (fun _ _ _ => by simp) (by simp)

end Record.Sound

namespace FileReport.Sound
variable {file : FileReport} (sound : file.Sound) (line index : Nat) (name : String)
  (made : Observation)

theorem new (uri languageId : String) : FileReport.Sound { uri, languageId } where
  lines := List.nodup_nil
  numbered _ member := by cases member
  filled _ member := by cases member
  located _ member := by cases member
  examples _ member := by cases member
  records _ member := by cases member

include sound

theorem addExample {e : Example} (located : e.location.uri = file.uri) :
    (file.addExample e).Sound where
  lines := sound.lines
  numbered := sound.numbered
  filled := sound.filled
  located := List.forall_mem_append.mpr ⟨sound.located, by simp [FileReport.addExample, located]⟩
  examples := List.forall_mem_append.mpr ⟨sound.examples, by simp [Record.Sound.new]⟩
  records := sound.records

theorem addProbe (positive : line ≠ 0) (probe : Probe) : (file.addProbe line probe).Sound where
  lines := Ledger.nodup_keys_upsert sound.lines
  numbered := Ledger.forall_upsert sound.numbered (fun _ _ held => held) (by simp; omega)
  filled := Ledger.forall_upsert sound.filled (fun _ _ _ => by simp) (by simp)
  located := sound.located
  examples := sound.examples
  records := by
    refine Ledger.forall_upsert sound.records (fun _ _ held => ?_) (by simp [Record.Sound.new])
    exact List.forall_mem_append.mpr ⟨held, by simp [Record.Sound.new]⟩

theorem observe : (file.observe line index name made).Sound where
  lines := by
    rw [FileReport.observe, Ledger.keys_modify]
    exact sound.lines
  numbered := Ledger.forall_modify sound.numbered fun _ _ held => held
  filled := Ledger.forall_modify sound.filled fun _ _ held => by
    simpa [List.modify_eq_nil_iff] using held
  located := sound.located
  examples := sound.examples
  records := Ledger.forall_modify sound.records fun _ _ held =>
    forall_modify_at held fun _ _ before => before.add name made

theorem observeExample (location : Location) : (file.observeExample location name made).Sound where
  lines := sound.lines
  numbered := sound.numbered
  filled := sound.filled
  located := forall_modifyFirst sound.located fun _ _ held => held
  examples := forall_modifyFirst sound.examples fun _ _ held => held.add name made
  records := sound.records

omit sound in
theorem observeOrphan_ne_nil (records : List Record) :
    FileReport.observeOrphan line name made records ≠ [] := by
  cases records with
  | nil => exact List.cons_ne_nil _ _
  | cons record rest =>
    unfold FileReport.observeOrphan
    split <;> exact List.cons_ne_nil _ _

theorem addOrphan (positive : line ≠ 0) : (file.addOrphan line name made).Sound where
  lines := Ledger.nodup_keys_upsert sound.lines
  numbered := Ledger.forall_upsert sound.numbered (fun _ _ held => held) (by simp; omega)
  filled := Ledger.forall_upsert sound.filled (fun _ _ _ => observeOrphan_ne_nil line name made _)
    (observeOrphan_ne_nil line name made [])
  located := sound.located
  examples := sound.examples
  records := by
    have added : ∀ records : List Record, (∀ record ∈ records, record.Sound) →
        ∀ record ∈ FileReport.observeOrphan line name made records, record.Sound :=
      fun _ held => forall_observeOrphan held ((Record.Sound.new _).add name made)
        fun _ _ before => before.add name made
    exact Ledger.forall_upsert sound.records (fun records _ => added records)
      (added [] (List.forall_mem_nil _))

end FileReport.Sound

namespace Report
variable {report : Report}

theorem Sound.empty : Report.Sound {} :=
  ⟨List.nodup_nil, fun _ member => by cases member⟩

theorem uris_register (uri languageId : String) (report : Report) :
    (report.register uri languageId).uris =
      if uri ∈ report.uris then report.uris else report.uris ++ [uri] := by
  unfold register
  simp only [file?_isSome_iff]
  split
  · rfl
  · simp [uris]

theorem Sound.register (sound : report.Sound) (uri languageId : String) :
    (report.register uri languageId).Sound := by
  constructor
  · rw [uris_register]
    split
    · exact sound.uris
    · rename_i absent
      exact List.nodup_append'.mpr
        ⟨sound.uris, List.nodup_singleton uri, List.disjoint_singleton.mpr absent⟩
  · unfold Report.register
    split
    · exact sound.files
    · exact List.forall_mem_append.mpr ⟨sound.files, by simp [FileReport.Sound.new]⟩

theorem Sound.modifyFile (sound : report.Sound) (uri : String)
    {change : FileReport → FileReport} (kept : ∀ file, (change file).uri = file.uri)
    (changed : ∀ file, file.uri = uri → file.Sound → (change file).Sound) :
    (report.modifyFile uri change).Sound where
  uris := by
    rw [uris_modifyFile kept]
    exact sound.uris
  files := forall_modifyFirst sound.files fun file found held =>
    changed file (by simpa using List.find?_some found) held

end Report

namespace Change

/-- What every change keeps. -/
theorem applied_sound {report : Report} (sound : report.Sound) (change : Change) :
    (change.applied report).Sound := by
  cases change with
  | file uri languageId => exact sound.register uri languageId
  | «example» e =>
    refine (sound.register _ _).modifyFile _ (fun _ => rfl) fun file here held => ?_
    exact held.addExample here.symm
  | probe uri line p =>
    rw [applied_probe]
    split
    · exact sound
    · rename_i positive
      exact sound.modifyFile uri (fun _ => rfl) fun _ _ held => held.addProbe line positive p
  | observation uri line index name made =>
    exact sound.modifyFile uri (fun _ => rfl) fun _ _ held => held.observe line index name made
  | exampleObservation e made =>
    exact sound.modifyFile _ (fun _ => rfl) fun _ _ held => held.observeExample e.name made _
  | orphan uri line name made =>
    rw [applied_orphan]
    split
    · exact sound
    · rename_i positive
      exact sound.modifyFile uri (fun _ => rfl) fun _ _ held => held.addOrphan line name made positive

theorem foldl_applied_sound (changes : List Change) {report : Report} (sound : report.Sound) :
    (changes.foldl applied report).Sound :=
  List.foldlRecOn changes applied sound fun _ held change _ => applied_sound held change

end Change
end ExampleProbes
