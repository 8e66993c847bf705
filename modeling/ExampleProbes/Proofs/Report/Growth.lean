import Mathlib.Data.List.Nodup
import ExampleProbes.Proofs.Report.Lookup

/-!
How the probes of a report change while examples run. Observations leave all probes in
place; only a line that had no probe may gain one, an orphan, and becomes a trigger line
with it. `GrownBy` lists these lines, for any number of changes.
-/
namespace ExampleProbes

namespace Ledger
variable {κ ν : Type} [DecidableEq κ] {p : ν → Bool} {key : κ} {change : ν → ν} {new : ν}

def keysOf (p : ν → Bool) (ledger : Ledger κ ν) : List κ :=
  (ledger.filter fun entry => p entry.2).map Prod.fst

omit [DecidableEq κ] in
theorem keysOf_cons (p : ν → Bool) (entry : κ × ν) (rest : Ledger κ ν) :
    keysOf p (entry :: rest) =
      if p entry.2 then entry.1 :: keysOf p rest else keysOf p rest := by
  unfold keysOf
  by_cases chosen : p entry.2 <;> simp [chosen]

theorem keysOf_modify (kept : ∀ value, p (change value) = p value) (ledger : Ledger κ ν) :
    keysOf p (modify key change ledger) = keysOf p ledger := by
  induction ledger with
  | nil => rfl
  | cons entry rest ih =>
    by_cases here : entry.1 = key
    · simp only [modify, here, ↓reduceIte, keysOf_cons, kept]
    · simp only [modify, here, ↓reduceIte, keysOf_cons, ih]

/-- Where the value at the key did not satisfy `p` and its successor does, the key comes in. -/
theorem keysOf_upsert (without : ∀ value, get? key ledger = some value → p value = false)
    (changed : ∀ value, get? key ledger = some value → p (change value)) (fresh : p new) :
    ∃ before after, keysOf p ledger = before ++ after ∧
      keysOf p (upsert key change new ledger) = before ++ key :: after := by
  induction ledger with
  | nil => exact ⟨[], [], rfl, by simp [upsert, keysOf, fresh]⟩
  | cons entry rest ih =>
    by_cases here : entry.1 = key
    · have found : get? key (entry :: rest) = some entry.2 := by simp [get?, here]
      refine ⟨[], keysOf p rest, ?_, ?_⟩
      · simp [keysOf_cons, without _ found]
      · simp [upsert, here, keysOf_cons, changed _ found]
    · have skip : get? key (entry :: rest) = get? key rest := by simp [get?, here]
      rw [skip] at without changed
      obtain ⟨before, after, old, grown⟩ := ih without changed
      simp only [upsert, here, ↓reduceIte, keysOf_cons, old, grown]
      by_cases chosen : p entry.2
      · exact ⟨entry.1 :: before, after, by simp [chosen], by simp [chosen]⟩
      · exact ⟨before, after, by simp [chosen], by simp [chosen]⟩

end Ledger

theorem modifyFirst_of_none {α : Type} {p : α → Bool} {change : α → α} {xs : List α}
    (missing : xs.find? p = none) : modifyFirst p change xs = xs := by
  induction xs with
  | nil => rfl
  | cons a rest ih =>
    have none : p a = false ∧ rest.find? p = none := by
      simpa [List.find?_eq_none] using missing
    simp [modifyFirst, none.1, ih none.2]

theorem modifyFirst_of_some {α : Type} {p : α → Bool} (change : α → α) {xs : List α} {a : α}
    (found : xs.find? p = some a) : p a ∧ ∃ front back, xs = front ++ a :: back ∧
      modifyFirst p change xs = front ++ change a :: back := by
  induction xs with
  | nil => cases found
  | cons first rest ih =>
    by_cases here : p first
    · have same : first = a := by simpa [here] using found
      subst same
      exact ⟨here, [], rest, rfl, by simp [modifyFirst, here]⟩
    · have later : rest.find? p = some a := by simpa [here] using found
      obtain ⟨holds, front, back, split, changed⟩ := ih later
      exact ⟨holds, first :: front, back, by simp [split], by simp [modifyFirst, here, changed]⟩

theorem map_probe_modify (index : Nat) (name : String) (observation : Observation)
    (records : List Record) :
    (records.modify index (·.add name observation)).map (·.probe) = records.map (·.probe) := by
  induction records generalizing index with
  | nil => simp
  | cons record rest ih =>
    cases index with
    | zero => simp
    | succ index => simp [ih]

namespace FileReport

def listens (name : String) (records : List Record) : Bool :=
  records.any (·.probe.appliesTo name)

theorem linesFor_eq (name : String) (file : FileReport) :
    file.linesFor name = Ledger.keysOf (listens name) file.lines := rfl

theorem listens_eq (name : String) (records : List Record) :
    listens name records = (records.map (·.probe)).any (·.appliesTo name) := by
  simp [listens, List.any_map, Function.comp_def]

variable (line index : Nat) (name other : String) (observation : Observation) (file : FileReport)

theorem linesFor_observe :
    (file.observe line index name observation).linesFor other = file.linesFor other := by
  rw [linesFor_eq, linesFor_eq]
  refine Ledger.keysOf_modify (fun records => ?_) file.lines
  rw [listens_eq, map_probe_modify, ← listens_eq]

theorem linesFor_addOrphan {file : FileReport} (unclaimed : file.recordsOn line = []) :
    ∃ before after, file.linesFor other = before ++ after ∧
      (file.addOrphan line name observation).linesFor other = before ++ line :: after := by
  have nothing : ∀ records, Ledger.get? line file.lines = some records → records = [] := by
    intro records found
    simpa [recordsOn, found] using unclaimed
  simp only [linesFor_eq]
  refine Ledger.keysOf_upsert (fun records found => ?_) (fun records found => ?_) rfl
  · rw [nothing records found]
    rfl
  · rw [nothing records found]
    rfl

end FileReport

namespace Report
variable (uri : String) (line index : Nat) (name other : String) (observation : Observation)

def placesFor (name : String) (file : FileReport) : List (String × Nat) :=
  (file.linesFor name).map fun line => (file.uri, line)

theorem linesFor_eq (report : Report) :
    report.linesFor other = report.files.flatMap (placesFor other) := rfl

theorem linesFor_modifyFile {change : FileReport → FileReport}
    (kept : ∀ file, placesFor other (change file) = placesFor other file) (report : Report) :
    (report.modifyFile uri change).linesFor other = report.linesFor other := by
  rw [linesFor_eq, linesFor_eq, List.flatMap_def, List.flatMap_def, modifyFile,
    map_modifyFirst kept]

theorem linesFor_observe (report : Report) :
    (report.observe uri line index name observation).linesFor other = report.linesFor other := by
  refine linesFor_modifyFile uri other (fun file => ?_) report
  rw [placesFor, FileReport.linesFor_observe]
  rfl

theorem linesFor_observeExample (e : Example) (report : Report) :
    (report.observeExample e observation).linesFor other = report.linesFor other := by
  refine linesFor_modifyFile e.location.uri other (fun file => ?_) report
  rfl

theorem linesFor_observeOrphan {report : Report} (registered : uri ∈ report.uris)
    (unclaimed : report.recordsAt uri line = []) :
    ∃ before after, report.linesFor other = before ++ after ∧
      (report.observeOrphan uri line name observation).linesFor other =
        before ++ (uri, line) :: after := by
  obtain ⟨file, found⟩ := Option.isSome_iff_exists.mp ((file?_isSome_iff uri).mpr registered)
  obtain ⟨here, front, back, split, changed⟩ :=
    modifyFirst_of_some (·.addOrphan line name observation) found
  have address : file.uri = uri := by simpa using here
  have none : file.recordsOn line = [] := by simpa [recordsAt, found] using unclaimed
  obtain ⟨before, after, old, grown⟩ :=
    FileReport.linesFor_addOrphan line name other observation none
  have places : placesFor other file =
      before.map (Prod.mk uri) ++ after.map (Prod.mk uri) := by
    simp [placesFor, old, address]
  have extended : placesFor other (file.addOrphan line name observation) =
      before.map (Prod.mk uri) ++ (uri, line) :: after.map (Prod.mk uri) := by
    simp [placesFor, grown, address, FileReport.addOrphan_uri]
  refine ⟨front.flatMap (placesFor other) ++ before.map (Prod.mk uri),
    after.map (Prod.mk uri) ++ back.flatMap (placesFor other), ?_, ?_⟩
  · rw [linesFor_eq, split]
    simp [places]
  · rw [linesFor_eq, observeOrphan, modifyFile, changed]
    simp [extended]

theorem observeOrphan_of_unregistered {report : Report} (missing : uri ∉ report.uris) :
    report.observeOrphan uri line name observation = report := by
  have none := (file?_eq_none_iff uri).mpr missing
  rw [observeOrphan, modifyFile, modifyFirst_of_none none]

@[simp] theorem probesAt_observe (u : String) (l : Nat) (report : Report) :
    (report.observe uri line index name observation).probesAt u l = report.probesAt u l := by
  rw [probesAt_eq, probesAt_eq]
  by_cases here : (u, l) = (uri, line)
  · obtain ⟨rfl, rfl⟩ := Prod.mk.inj here
    rw [recordsAt_observe_self, map_probe_modify]
  · rw [recordsAt_observe_of_ne _ _ _ _ _ here]

/-- From `before` to `after` just the lines of `added` gained an orphan, which makes each of
    them a trigger line of every example; all other probes stay where they are. -/
structure GrownBy (added : List (String × Nat)) (before after : Report) : Prop where
  distinct : added.Nodup
  uris : after.uris = before.uris
  order : ∀ name, (before.linesFor name).Sublist (after.linesFor name)
  lines : ∀ name, (after.linesFor name).Perm (before.linesFor name ++ added)
  fresh : ∀ place ∈ added, before.probesAt place.1 place.2 = []
  orphan : ∀ place ∈ added, after.probesAt place.1 place.2 = [.orphan place.2]
  kept : ∀ place ∉ added, after.probesAt place.1 place.2 = before.probesAt place.1 place.2

namespace GrownBy
variable {added more : List (String × Nat)} {a b c : Report}

theorem of_same (uris : b.uris = a.uris) (lines : ∀ name, b.linesFor name = a.linesFor name)
    (probes : ∀ uri line, b.probesAt uri line = a.probesAt uri line) : GrownBy [] a b where
  distinct := List.nodup_nil
  uris := uris
  order name := by rw [lines]
  lines name := by rw [lines, List.append_nil]
  fresh _ member := by cases member
  orphan _ member := by cases member
  kept place _ := probes place.1 place.2

theorem refl (report : Report) : GrownBy [] report report :=
  of_same rfl (fun _ => rfl) fun _ _ => rfl

theorem trans (first : GrownBy added a b) (second : GrownBy more b c) :
    GrownBy (added ++ more) a c := by
  -- A line of `added` has an orphan in `b` already, so that none is added there again.
  have apart : ∀ place ∈ added, place ∉ more := by
    intro place early late
    have orphan := first.orphan place early
    rw [second.fresh place late] at orphan
    cases orphan
  constructor
  · refine List.nodup_append'.mpr ⟨first.distinct, second.distinct, ?_⟩
    exact List.disjoint_left.mpr fun place => apart place
  · rw [second.uris, first.uris]
  · exact fun name => (first.order name).trans (second.order name)
  · intro name
    have grown := (second.lines name).trans ((first.lines name).append_right more)
    rwa [List.append_assoc] at grown
  · intro place member
    rcases List.mem_append.mp member with early | late
    · exact first.fresh place early
    · have outside : place ∉ added := fun early => apart place early late
      rw [← first.kept place outside]
      exact second.fresh place late
  · intro place member
    rcases List.mem_append.mp member with early | late
    · rw [second.kept place (apart place early)]
      exact first.orphan place early
    · exact second.orphan place late
  · intro place outside
    rw [List.mem_append, not_or] at outside
    rw [second.kept place outside.2, first.kept place outside.1]

end GrownBy

theorem observe_grows (report : Report) :
    GrownBy [] report (report.observe uri line index name observation) :=
  .of_same (uris_observe ..) (fun other => linesFor_observe uri line index name other _ report)
    fun _ _ => probesAt_observe ..

theorem observeExample_grows (e : Example) (report : Report) :
    GrownBy [] report (report.observeExample e observation) := by
  refine .of_same (uris_observeExample ..) (fun other => ?_) fun u l => ?_
  · exact linesFor_observeExample other observation e report
  · rw [probesAt_eq, probesAt_eq, recordsAt_observeExample]

theorem observeOrphan_grows {report : Report}
    (unclaimed : report.recordsAt uri line = []) :
    ∃ added, GrownBy added report (report.observeOrphan uri line name observation) := by
  by_cases registered : uri ∈ report.uris
  · refine ⟨[(uri, line)], List.nodup_singleton _, uris_observeOrphan .., ?_, ?_, ?_, ?_, ?_⟩
    · intro other
      obtain ⟨before, after, old, grown⟩ :=
        linesFor_observeOrphan uri line name other observation registered unclaimed
      rw [old, grown]
      exact (List.sublist_cons_self _ after).append_left before
    · intro other
      obtain ⟨before, after, old, grown⟩ :=
        linesFor_observeOrphan uri line name other observation registered unclaimed
      rw [old, grown, List.append_assoc]
      exact (List.perm_append_singleton (uri, line) after).symm.append_left before
    · intro place member
      rw [List.mem_singleton.mp member, probesAt_eq, unclaimed]
      rfl
    · intro place member
      rw [List.mem_singleton.mp member, probesAt_eq,
        recordsAt_observeOrphan_self uri line name observation registered, unclaimed]
      rfl
    · intro place outside
      have elsewhere : (place.1, place.2) ≠ (uri, line) := mt List.mem_singleton.mpr outside
      rw [probesAt_eq, probesAt_eq, recordsAt_observeOrphan_of_ne _ _ _ _ elsewhere]
  · rw [observeOrphan_of_unregistered uri line name observation registered]
    exact ⟨[], .refl report⟩

end Report
end ExampleProbes
