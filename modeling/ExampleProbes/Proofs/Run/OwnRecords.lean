import ExampleProbes.Proofs.Run.Attribution
import ExampleProbes.Proofs.Run.OwnObservations

/-!
The record of an example itself, the first one that is located where the example is. Events
never reach it, so the run of an example adds its outcome there and changes no other record
of examples. As runs keep such records in their places, an example that is run once among
others gains just that one observation.
-/
namespace ExampleProbes

theorem findIdx_modifyFirst {α : Type} {p q : α → Bool} {change : α → α}
    (kept : ∀ a, p (change a) = p a) (xs : List α) :
    (modifyFirst q change xs).findIdx p = xs.findIdx p := by
  induction xs with
  | nil => rfl
  | cons a rest ih =>
    unfold modifyFirst
    split
    · simp [List.findIdx_cons, kept]
    · simp [List.findIdx_cons, ih]

theorem FileReport.isAt_add (location : Location) (name : String) (made : Observation)
    (record : Record) : isAt location (record.add name made) = isAt location record := rfl

theorem FileReport.isAt_eq_true_iff {location : Location} {record : Record} :
    isAt location record = true ↔
      ∃ e, record.probe = .ofExample e ∧ e.location = location := by
  unfold isAt
  cases record.probe <;> simp

namespace Report

/-- The report has a record for the example in its file. -/
def Registers (report : Report) (e : Example) : Prop :=
  ∃ record ∈ report.examplesIn e.location.uri, record.probe = .ofExample e

instance (report : Report) (e : Example) : Decidable (report.Registers e) :=
  inferInstanceAs (Decidable (∃ record ∈ _, _))

variable {report : Report} {e : Example}

theorem Registers.ownRecord (registered : report.Registers e) :
    ∃ own, report.record? (report.ownPlace e) = some own := by
  obtain ⟨record, member, same⟩ := registered
  have located : FileReport.isAt e.location record :=
    FileReport.isAt_eq_true_iff.mpr ⟨e, same, rfl⟩
  have inside := List.findIdx_lt_length_of_exists ⟨record, member, located⟩
  exact ⟨_, List.getElem?_eq_getElem inside⟩

/-- Where no other example is registered at its location, the record is the example's. -/
theorem probe_of_ownRecord {own : Record}
    (found : report.record? (report.ownPlace e) = some own)
    (alone : ∀ other, report.Registers other → other.location = e.location → other = e) :
    own.probe = .ofExample e := by
  obtain ⟨other, same, located⟩ := FileReport.isAt_eq_true_iff.mp (isAt_of_ownPlace found)
  have member : own ∈ report.examplesIn e.location.uri := List.mem_of_getElem? found
  rw [same, alone other ⟨own, by rwa [located], same⟩ located]

end Report

namespace Run
open Machine Report
variable (interpreter : Interpreter)

theorem runExample_examplesIn (e : Example) (start : Machine) (uri : String) :
    (runExample interpreter e start).final.report.examplesIn uri =
      if uri = e.location.uri then
        modifyFirst (FileReport.isAt e.location) (·.add e.name (endingOf interpreter e start))
          (start.report.examplesIn uri)
      else start.report.examplesIn uri := by
  rw [runExample_report, examplesIn_observeExample, passedBy_examplesIn]

theorem runExample_ownPlace (e : Example) (start : Machine) (other : Example) :
    (runExample interpreter e start).final.report.ownPlace other = start.report.ownPlace other := by
  unfold ownPlace
  rw [runExample_examplesIn]
  split
  · congr 1
    exact findIdx_modifyFirst (FileReport.isAt_add other.location e.name _) _
  · rfl

theorem runExample_record? (e : Example) (start : Machine) (other : Example) :
    (runExample interpreter e start).final.report.record? (start.report.ownPlace other) =
      if start.report.ownPlace other = start.report.ownPlace e then
        (start.report.record? (start.report.ownPlace other)).map
          (·.add e.name (endingOf interpreter e start))
      else start.report.record? (start.report.ownPlace other) := by
  have place : (passedBy interpreter e start).report.ownPlace e = start.report.ownPlace e := by
    simp only [ownPlace, passedBy_examplesIn]
  have record : (passedBy interpreter e start).report.record? (start.report.ownPlace other) =
      start.report.record? (start.report.ownPlace other) := by
    simp only [ownPlace, record?, passedBy_examplesIn]
  rw [runExample_report, record?_observeExample, place, record]

theorem runAll_ownPlace (examples : List Example) (start : Machine) (e : Example) :
    (runAll interpreter examples start).final.report.ownPlace e = start.report.ownPlace e := by
  induction examples generalizing start with
  | nil => rfl
  | cons first rest ih => rw [runAll_cons_final, ih, runExample_ownPlace]

/-- Examples that are located elsewhere leave the record of an example alone. -/
theorem runAll_record?_of_elsewhere {examples : List Example} {e : Example}
    (elsewhere : ∀ other ∈ examples, other.location ≠ e.location) {start : Machine} {own : Record}
    (found : start.report.record? (start.report.ownPlace e) = some own) :
    (runAll interpreter examples start).final.report.record? (start.report.ownPlace e) =
      some own := by
  induction examples generalizing start with
  | nil => exact found
  | cons first rest ih =>
    obtain ⟨head, tail⟩ := List.forall_mem_cons.mp elsewhere
    have apart : start.report.ownPlace e ≠ start.report.ownPlace first := by
      intro same
      obtain ⟨a, probeA, atFirst⟩ :=
        FileReport.isAt_eq_true_iff.mp (isAt_of_ownPlace (same ▸ found))
      obtain ⟨b, probeB, atOwn⟩ := FileReport.isAt_eq_true_iff.mp (isAt_of_ownPlace found)
      obtain rfl : a = b := by simpa [probeA] using probeB
      exact head (atFirst.symm.trans atOwn)
    have place := runExample_ownPlace interpreter first start e
    have kept : (runExample interpreter first start).final.report.record?
        ((runExample interpreter first start).final.report.ownPlace e) = some own := by
      rw [place, runExample_record?, if_neg apart, found]
    rw [runAll_cons_final, ← place]
    exact ih tail kept

/-- An example that is run once gains its outcome, whatever is run before it and after it. -/
theorem runAll_record?_own {earlier later : List Example} {e : Example}
    (distinct : ((earlier ++ e :: later).map (·.location)).Nodup) {start : Machine} {own : Record}
    (found : start.report.record? (start.report.ownPlace e) = some own) :
    (runAll interpreter (earlier ++ e :: later) start).final.report.record?
        (start.report.ownPlace e) =
      some (own.add e.name
        (endingOf interpreter e (runAll interpreter earlier start).final)) := by
  rw [List.map_append, List.map_cons, List.nodup_middle, List.nodup_cons] at distinct
  have others : ∀ other ∈ earlier ++ later, other.location ≠ e.location := by
    intro other member same
    apply distinct.1
    rw [← List.map_append, ← same]
    exact List.mem_map_of_mem member
  obtain ⟨before, after⟩ := List.forall_mem_append.mp others
  let begins := (runAll interpreter earlier start).final
  let ends := (runExample interpreter e begins).final
  have place : begins.report.ownPlace e = start.report.ownPlace e :=
    runAll_ownPlace interpreter earlier start e
  have place' : ends.report.ownPlace e = start.report.ownPlace e :=
    (runExample_ownPlace interpreter e begins e).trans place
  have stands : begins.report.record? (begins.report.ownPlace e) = some own := by
    rw [place]
    exact runAll_record?_of_elsewhere interpreter before found
  have gained : ends.report.record? (ends.report.ownPlace e) =
      some (own.add e.name (endingOf interpreter e begins)) := by
    rw [place', ← place, runExample_record?, if_pos rfl, stands]
    rfl
  rw [runAll_append_final, runAll_cons_final, ← place']
  exact runAll_record?_of_elsewhere interpreter after gained

end Run
end ExampleProbes
