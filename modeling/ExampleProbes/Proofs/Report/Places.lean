import Mathlib.Data.List.Basic
import ExampleProbes.Proofs.Report.Lookup

/-!
Records by their places. A record stands among the examples of a file or at a trigger line
of it, and is found there by its position. An observation reaches the record of one place,
and the records of all other places stay as they are.
-/
namespace ExampleProbes

inductive Place where
  | inExamples (uri : String) (index : Nat)
  | atLine (uri : String) (line index : Nat)
  deriving DecidableEq, Repr

theorem getElem?_modifyFirst {α : Type} (p : α → Bool) (change : α → α) (xs : List α)
    (index : Nat) : (modifyFirst p change xs)[index]? =
      if index = xs.findIdx p then xs[index]?.map change else xs[index]? := by
  induction xs generalizing index with
  | nil => simp [modifyFirst]
  | cons a rest ih =>
    by_cases here : p a
    · cases index <;> simp [modifyFirst, here, List.findIdx_cons]
    · cases index with
      | zero => simp [modifyFirst, here, List.findIdx_cons]
      | succ index => simp [modifyFirst, here, List.findIdx_cons, ih]

/-- The place of the orphan record of a list, behind all others where there is none. -/
def orphanIndex (records : List Record) : Nat := records.findIdx (·.probe.isOrphan)

theorem getElem?_observeOrphan (line : Nat) (name : String) (made : Observation)
    (records : List Record) (index : Nat) :
    (FileReport.observeOrphan line name made records)[index]? =
      if index = orphanIndex records then
        some ((records[index]?.getD { probe := .orphan line }).add name made)
      else records[index]? := by
  induction records generalizing index with
  | nil => cases index <;> simp [FileReport.observeOrphan, orphanIndex]
  | cons record rest ih =>
    by_cases here : record.probe.isOrphan
    · cases index <;> simp [FileReport.observeOrphan, here, orphanIndex, List.findIdx_cons]
    · cases index with
      | zero => simp [FileReport.observeOrphan, here, orphanIndex, List.findIdx_cons]
      | succ index =>
        have next : orphanIndex (record :: rest) = orphanIndex rest + 1 := by
          simp [orphanIndex, List.findIdx_cons, here]
        simp [FileReport.observeOrphan, here, next, ih]

namespace Report

def record? (report : Report) : Place → Option Record
  | .inExamples uri index => (report.examplesIn uri)[index]?
  | .atLine uri line index => (report.recordsAt uri line)[index]?

def observed (place : Place) (name : String) (report : Report) : List Observation :=
  ((report.record? place).map (·.observed name)).getD []

/-- The place where the outcome of an example is recorded. -/
def ownPlace (e : Example) (report : Report) : Place :=
  .inExamples e.location.uri
    ((report.examplesIn e.location.uri).findIdx (FileReport.isAt e.location))

def orphanPlace (uri : String) (line : Nat) (report : Report) : Place :=
  .atLine uri line (orphanIndex (report.recordsAt uri line))

section Observe
variable (uri : String) (line index : Nat) (name : String) (made : Observation)

theorem record?_observe (report : Report) (place : Place) :
    (report.observe uri line index name made).record? place =
      if place = .atLine uri line index then (report.record? place).map (·.add name made)
      else report.record? place := by
  cases place with
  | inExamples other position => simp [record?]
  | atLine other number position =>
    by_cases here : (other, number) = (uri, line)
    · obtain ⟨rfl, rfl⟩ := Prod.mk.inj here
      by_cases same : index = position
      · simp [record?, recordsAt_observe_self, same]
      · simp [record?, recordsAt_observe_self, same, Ne.symm same]
    · have elsewhere : Place.atLine other number position ≠ .atLine uri line index := by
        intro same
        cases same
        exact here rfl
      simp only [record?, recordsAt_observe_of_ne _ _ _ _ _ here, elsewhere, ↓reduceIte]

theorem record?_observeOrphan {report : Report} (registered : uri ∈ report.uris) (place : Place) :
    (report.observeOrphan uri line name made).record? place =
      if place = report.orphanPlace uri line then
        some (((report.record? place).getD { probe := .orphan line }).add name made)
      else report.record? place := by
  cases place with
  | inExamples other position => simp [record?, orphanPlace]
  | atLine other number position =>
    by_cases here : (other, number) = (uri, line)
    · obtain ⟨rfl, rfl⟩ := Prod.mk.inj here
      simp only [record?, recordsAt_observeOrphan_self _ _ _ _ registered, getElem?_observeOrphan,
        orphanPlace, Place.atLine.injEq, true_and]
    · have elsewhere : Place.atLine other number position ≠ report.orphanPlace uri line := by
        intro same
        cases same
        exact here rfl
      simp only [record?, recordsAt_observeOrphan_of_ne _ _ _ _ here, elsewhere, ↓reduceIte]

end Observe

theorem record?_observeExample (e : Example) (made : Observation) (report : Report)
    (place : Place) :
    (report.observeExample e made).record? place =
      if place = report.ownPlace e then (report.record? place).map (·.add e.name made)
      else report.record? place := by
  cases place with
  | atLine other number position => simp [record?, ownPlace]
  | inExamples other position =>
    by_cases here : other = e.location.uri
    · simp only [record?, examplesIn_observeExample, here, ↓reduceIte, getElem?_modifyFirst,
        ownPlace, Place.inExamples.injEq, true_and]
    · simp [record?, examplesIn_observeExample, here, ownPlace]

end Report

end ExampleProbes
