import Mathlib.Data.List.Induction
import ExampleProbes.Proofs.Report.Enumeration

/-!
A report as its history tells it. Whatever changes were made, its files are those that were
registered, in the order and with the language of their first registration, and the trigger
lines of a file those that were claimed in it, in the order of the first claim.
-/
namespace ExampleProbes

theorem eraseDups_concat {α : Type} [BEq α] [LawfulBEq α] [DecidableEq α] (xs : List α) (a : α) :
    (xs ++ [a]).eraseDups = if a ∈ xs then xs.eraseDups else xs.eraseDups ++ [a] := by
  rw [List.eraseDups_append]
  split
  · rename_i inside
    simp [List.removeAll, inside]
  · rename_i outside
    simp [List.removeAll, outside, List.eraseDups_cons]

def Report.claim? (uri : String) (line : Nat) (report : Report) : Option (String × Nat) :=
  if line ≠ 0 ∧ uri ∈ report.uris then some (uri, line) else none

namespace Change

/-- The file that a change registers, if it is not registered yet. -/
def registers? : Change → Option (String × String)
  | .file uri languageId => some (uri, languageId)
  | .example e => some (e.location.uri, e.location.languageId)
  | _ => none

/-- The trigger line that a change claims, where its file is registered. -/
def claims? (report : Report) : Change → Option (String × Nat)
  | .probe uri line _ => report.claim? uri line
  | .orphan uri line _ _ => report.claim? uri line
  | _ => none

def registrations (changes : List Change) : List (String × String) :=
  changes.filterMap registers?

/-- What the changes claim, one after the other from `report` on. -/
def claimsFrom (report : Report) : List Change → List (String × Nat)
  | [] => []
  | change :: rest => (change.claims? report).toList ++ claimsFrom (change.applied report) rest

/-- The lines claimed in a file, in order. -/
def linesOf (uri : String) (claims : List (String × Nat)) : List Nat :=
  (claims.filter (·.1 == uri)).map Prod.snd

theorem claimsFrom_concat (changes : List Change) (change : Change) (report : Report) :
    claimsFrom report (changes ++ [change]) =
      claimsFrom report changes ++ (change.claims? (changes.foldl applied report)).toList := by
  induction changes generalizing report with
  | nil => simp [claimsFrom]
  | cons first rest ih => simp [claimsFrom, ih]

end Change

namespace Report
variable (uri languageId : String) (report : Report)

/-- The addresses and languages of the files. -/
def headings (report : Report) : List (String × String) :=
  report.files.map fun file => (file.uri, file.languageId)

def linesIn (uri : String) (report : Report) : List Nat :=
  ((report.file? uri).map (·.lines.keys)).getD []

theorem uris_eq_headings : report.uris = report.headings.map Prod.fst := by
  simp [uris, headings]

theorem headings_register : (report.register uri languageId).headings =
    if uri ∈ report.uris then report.headings else report.headings ++ [(uri, languageId)] := by
  unfold register
  simp only [file?_isSome_iff]
  split
  · rfl
  · simp [headings]

theorem headings_modifyFile (change : FileReport → FileReport)
    (kept : ∀ file, (change file).uri = file.uri ∧ (change file).languageId = file.languageId) :
    (report.modifyFile uri change).headings = report.headings :=
  map_modifyFirst (fun file => by rw [(kept file).1, (kept file).2]) report.files

theorem linesIn_register (other : String) :
    (report.register uri languageId).linesIn other = report.linesIn other := by
  unfold register
  split
  · rfl
  · unfold linesIn file?
    rw [List.find?_append]
    cases found : report.files.find? (·.uri == other) with
    | some file => simp
    | none =>
      by_cases same : uri = other <;> simp [same, Ledger.keys]

section ModifyFile
variable (change : FileReport → FileReport) (kept : ∀ file, (change file).uri = file.uri)
  (other : String)
include kept

theorem linesIn_modifyFile (same : ∀ file, (change file).lines.keys = file.lines.keys) :
    (report.modifyFile uri change).linesIn other = report.linesIn other := by
  unfold linesIn
  by_cases here : other = uri
  · rw [here, file?_modifyFile_self kept, Option.map_map]
    congr 2
    exact funext same
  · rw [file?_modifyFile_of_ne kept here]

/-- A line that is claimed in a registered file comes behind the lines that were there. -/
theorem linesIn_claim (line : Nat) (claimed : ∀ file, (change file).lines.keys =
      if line ∈ file.lines.keys then file.lines.keys else file.lines.keys ++ [line]) :
    (if line = 0 then report else report.modifyFile uri change).linesIn other =
      match report.claim? uri line with
      | some (address, number) =>
        if address = other ∧ number ∉ report.linesIn other then
          report.linesIn other ++ [number] else report.linesIn other
      | none => report.linesIn other := by
  unfold claim?
  by_cases zero : line = 0
  · simp [zero]
  · by_cases registered : uri ∈ report.uris
    · obtain ⟨file, found⟩ := Option.isSome_iff_exists.mp ((file?_isSome_iff uri).mpr registered)
      simp only [zero, registered, ne_eq, not_false_eq_true, and_self, ↓reduceIte]
      by_cases here : other = uri
      · have before : report.linesIn other = file.lines.keys := by simp [linesIn, here, found]
        have after : (report.modifyFile uri change).linesIn other = (change file).lines.keys := by
          simp [linesIn, here, file?_modifyFile_self kept, found]
        rw [after, claimed, before]
        simp [here]
      · have same : (report.modifyFile uri change).linesIn other = report.linesIn other := by
          rw [linesIn, file?_modifyFile_of_ne kept here, linesIn]
        rw [same, if_neg]
        exact fun both => here both.1.symm
    · simp [zero, registered, modifyFile_of_unregistered change registered]

end ModifyFile

end Report

namespace Change
open Report

theorem headings_applied (report : Report) (change : Change) :
    (change.applied report).headings = match change.registers? with
      | some (uri, languageId) =>
        if uri ∈ report.uris then report.headings else report.headings ++ [(uri, languageId)]
      | none => report.headings := by
  cases change with
  | file uri languageId => exact headings_register uri languageId report
  | «example» e =>
    have kept := headings_modifyFile e.location.uri
      (report.register e.location.uri e.location.languageId) (·.addExample e) fun _ => ⟨rfl, rfl⟩
    exact kept.trans (headings_register _ _ report)
  | probe uri line p =>
    rw [applied_probe]
    split
    · rfl
    · exact headings_modifyFile uri report (·.addProbe line p) fun _ => ⟨rfl, rfl⟩
  | observation uri line index name made =>
    exact headings_modifyFile uri report (·.observe line index name made) fun _ => ⟨rfl, rfl⟩
  | exampleObservation e made =>
    exact headings_modifyFile _ report (·.observeExample e.location e.name made)
      fun _ => ⟨rfl, rfl⟩
  | orphan uri line name made =>
    rw [applied_orphan]
    split
    · rfl
    · exact headings_modifyFile uri report (·.addOrphan line name made) fun _ => ⟨rfl, rfl⟩

theorem linesIn_applied (report : Report) (change : Change) (uri : String) :
    (change.applied report).linesIn uri = match change.claims? report with
      | some (address, number) =>
        if address = uri ∧ number ∉ report.linesIn uri then report.linesIn uri ++ [number]
        else report.linesIn uri
      | none => report.linesIn uri := by
  cases change with
  | file address languageId => exact linesIn_register address languageId report uri
  | «example» e =>
    have kept := linesIn_modifyFile e.location.uri
      (report.register e.location.uri e.location.languageId) (·.addExample e)
      (fun _ => rfl) uri fun _ => rfl
    exact kept.trans (linesIn_register _ _ report uri)
  | probe address line p =>
    rw [applied_probe]
    exact linesIn_claim address report (·.addProbe line p) (fun _ => rfl) uri line
      fun file => Ledger.keys_upsert line _ _ file.lines
  | observation address line index name made =>
    exact linesIn_modifyFile address report (·.observe line index name made) (fun _ => rfl) uri
      fun file => Ledger.keys_modify line _ file.lines
  | exampleObservation e made =>
    exact linesIn_modifyFile _ report (·.observeExample e.location e.name made) (fun _ => rfl) uri
      fun _ => rfl
  | orphan address line name made =>
    rw [applied_orphan]
    exact linesIn_claim address report (·.addOrphan line name made) (fun _ => rfl) uri line
      fun file => Ledger.keys_upsert line _ _ file.lines

theorem uris_after (changes : List Change) :
    (changes.foldl applied {}).uris = ((registrations changes).map Prod.fst).eraseDups := by
  induction changes using List.reverseRecOn with
  | nil => rfl
  | append_singleton earlier change ih =>
    rw [List.foldl_concat, uris_eq_headings, headings_applied, registrations,
      List.filterMap_append, List.map_append, ← registrations]
    cases registers : change.registers? with
    | none => simpa [registers, ← uris_eq_headings] using ih
    | some heading =>
      have known : heading.1 ∈ (earlier.foldl applied {}).uris ↔
          heading.1 ∈ (registrations earlier).map Prod.fst := by
        rw [ih, List.mem_eraseDups]
      simp only [List.filterMap_cons, registers, List.filterMap_nil, List.map_cons, List.map_nil,
        eraseDups_concat, ← known, ← ih]
      split <;> simp [uris_eq_headings]

theorem language_after (changes : List Change) :
    ∀ heading ∈ (changes.foldl applied {}).headings,
      (registrations changes).lookup heading.1 = some heading.2 := by
  induction changes using List.reverseRecOn with
  | nil =>
    intro heading member
    cases member
  | append_singleton earlier change ih =>
    intro heading member
    rw [List.foldl_concat, headings_applied] at member
    rw [registrations, List.filterMap_append, ← registrations, List.lookup_append]
    cases registers : change.registers? with
    | none =>
      simp only [registers] at member
      rw [ih heading member, Option.some_or]
    | some fresh =>
      simp only [registers] at member
      split at member
      · rw [ih heading member, Option.some_or]
      · rename_i absent
        rcases List.mem_append.mp member with old | new
        · rw [ih heading old, Option.some_or]
        · -- The file is new, so that nothing before has registered it.
          have same : heading = fresh := List.mem_singleton.mp new
          have first : (registrations earlier).lookup heading.1 = none := by
            rw [uris_after, List.mem_eraseDups, ← same] at absent
            refine List.lookup_eq_none_iff.mpr fun entry inside => ?_
            have other : heading.1 ≠ entry.1 := by
              intro equal
              exact absent (equal ▸ List.mem_map_of_mem inside)
            simpa using other
          have last : [change].filterMap registers? = [heading] := by simp [registers, same]
          rw [first, Option.none_or, last]
          exact List.lookup_cons_self

theorem linesIn_after (changes : List Change) (uri : String) :
    (changes.foldl applied {}).linesIn uri = (linesOf uri (claimsFrom {} changes)).eraseDups := by
  induction changes using List.reverseRecOn with
  | nil => rfl
  | append_singleton earlier change ih =>
    rw [List.foldl_concat, linesIn_applied, claimsFrom_concat, linesOf, List.filter_append,
      List.map_append, ← linesOf]
    cases claims : change.claims? (earlier.foldl applied {}) with
    | none => simpa using ih
    | some place =>
      by_cases here : place.1 = uri
      · simp only [Option.toList_some, List.filter_cons, here, beq_self_eq_true, ↓reduceIte,
          List.filter_nil, List.map_cons, List.map_nil, eraseDups_concat, true_and, ite_not, ih,
          List.mem_eraseDups]
      · simpa [here] using ih

end Change
end ExampleProbes
