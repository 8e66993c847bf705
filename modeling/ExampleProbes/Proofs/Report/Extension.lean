import ExampleProbes.Proofs.Report.Changes

/-!
Reports only grow. Every change leaves all files, lines, records and observations where they
are and may add new ones behind them, so that a position once read stays good.
-/
namespace ExampleProbes

/-- Every member of `old` has its successor at the same position of `new`. -/
def InPlace {α : Type} (R : α → α → Prop) (old new : List α) : Prop :=
  ∀ (index : Nat) a, old[index]? = some a → ∃ b, new[index]? = some b ∧ R a b

namespace InPlace
variable {α β κ ν : Type} {R : α → α → Prop}

theorem refl (same : ∀ a, R a a) (xs : List α) : InPlace R xs xs :=
  fun _ a found => ⟨a, found, same a⟩

theorem trans (step : ∀ a b c, R a b → R b c → R a c) {xs ys zs : List α}
    (first : InPlace R xs ys) (second : InPlace R ys zs) : InPlace R xs zs := by
  intro index a found
  obtain ⟨b, middle, before⟩ := first index a found
  obtain ⟨c, last, after⟩ := second index b middle
  exact ⟨c, last, step a b c before after⟩

theorem nil (xs : List α) : InPlace R [] xs := by
  intro index a found
  simp at found

theorem cons {a b : α} {xs ys : List α} (first : R a b) (rest : InPlace R xs ys) :
    InPlace R (a :: xs) (b :: ys) := by
  intro index c found
  cases index with
  | zero =>
    obtain rfl : a = c := by simpa using found
    exact ⟨b, rfl, first⟩
  | succ index => exact rest index c found

theorem append {xs ys : List α} (kept : InPlace R xs ys) (more : List α) :
    InPlace R xs (ys ++ more) := by
  intro index a found
  obtain ⟨b, there, related⟩ := kept index a found
  obtain ⟨inside, _⟩ := List.getElem?_eq_some_iff.mp there
  exact ⟨b, by rw [List.getElem?_append_left inside, there], related⟩

theorem modify (same : ∀ a, R a a) {change : α → α} (changed : ∀ a, R a (change a))
    (xs : List α) (position : Nat) : InPlace R xs (xs.modify position change) := by
  intro index a found
  rw [List.getElem?_modify, found]
  by_cases here : position = index
  · exact ⟨change a, by simp [here], changed a⟩
  · exact ⟨a, by simp [here], same a⟩

theorem modifyFirst (same : ∀ a, R a a) {change : α → α} (changed : ∀ a, R a (change a))
    (p : α → Bool) (xs : List α) : InPlace R xs (modifyFirst p change xs) := by
  intro index a found
  rw [getElem?_modifyFirst, found]
  split
  · exact ⟨change a, rfl, changed a⟩
  · exact ⟨a, rfl, same a⟩

theorem find? {p : α → Bool} (tested : ∀ a b, R a b → p b = p a) {xs ys : List α} {a : α}
    (kept : InPlace R xs ys) (found : xs.find? p = some a) : ∃ b, ys.find? p = some b ∧ R a b := by
  induction xs generalizing ys with
  | nil => cases found
  | cons first rest ih =>
    obtain ⟨successor, start, related⟩ := kept 0 first rfl
    cases ys with
    | nil => cases start
    | cons head tail =>
      obtain rfl : head = successor := by simpa using start
      have onward : InPlace R rest tail := fun index c inside => kept (index + 1) c inside
      have test := tested first head related
      by_cases here : p first
      · obtain rfl : first = a := by simpa [here] using found
        exact ⟨head, by simp [test, here], related⟩
      · obtain ⟨b, later, pair⟩ := ih onward (by simpa [here] using found)
        exact ⟨b, by simpa [test, here] using later, pair⟩

theorem map_begins {f : α → β} (kept : ∀ a b, R a b → f b = f a) {xs ys : List α}
    (inPlace : InPlace R xs ys) : xs.map f <+: ys.map f := by
  rw [List.prefix_iff_getElem?]
  intro index inside
  rw [List.length_map] at inside
  obtain ⟨b, found, related⟩ := inPlace index xs[index] (List.getElem?_eq_getElem inside)
  simp [found, kept _ b related]

end InPlace

namespace Ledger
variable {κ ν : Type} [DecidableEq κ] {S : ν → ν → Prop}

/-- The key stays, and the value goes on as `S` has it. -/
def Goes (S : ν → ν → Prop) (old new : κ × ν) : Prop := new.1 = old.1 ∧ S old.2 new.2

omit [DecidableEq κ] in
theorem Goes.refl (same : ∀ v, S v v) (entry : κ × ν) : Goes S entry entry := ⟨rfl, same entry.2⟩

omit [DecidableEq κ] in
theorem Goes.trans (step : ∀ a b c, S a b → S b c → S a c) (a b c : κ × ν) (first : Goes S a b)
    (second : Goes S b c) : Goes S a c :=
  ⟨second.1.trans first.1, step _ _ _ first.2 second.2⟩

variable (same : ∀ v, S v v) {change : ν → ν} (changed : ∀ v, S v (change v)) (key : κ)
include same changed

theorem modify_inPlace (ledger : Ledger κ ν) :
    InPlace (Goes S) ledger (modify key change ledger) := by
  induction ledger with
  | nil => exact InPlace.nil _
  | cons entry rest ih =>
    unfold modify
    split
    · exact .cons ⟨rfl, changed entry.2⟩ (.refl (Goes.refl same) rest)
    · exact .cons (Goes.refl same entry) ih

theorem upsert_inPlace (new : ν) (ledger : Ledger κ ν) :
    InPlace (Goes S) ledger (upsert key change new ledger) := by
  rw [upsert_eq_append]
  exact (modify_inPlace same changed key ledger).append _

omit same changed in
theorem get?_eq_find? (ledger : Ledger κ ν) :
    get? key ledger = (ledger.find? (·.1 = key)).map Prod.snd := by
  induction ledger with
  | nil => rfl
  | cons entry rest ih =>
    by_cases here : entry.1 = key
    · simp [get?, here]
    · simp [get?, here, ih]

omit same changed in
theorem get?_inPlace {old new : Ledger κ ν} (kept : InPlace (Goes S) old new) {value : ν}
    (found : get? key old = some value) : ∃ next, get? key new = some next ∧ S value next := by
  rw [get?_eq_find?, Option.map_eq_some_iff] at found
  obtain ⟨entry, first, rfl⟩ := found
  obtain ⟨successor, second, _, goes⟩ :=
    kept.find? (fun a b related => by rw [related.1]) first
  exact ⟨successor.2, by rw [get?_eq_find?, second]; rfl, goes⟩

end Ledger

structure Record.Extended (old new : Record) : Prop where
  probe : new.probe = old.probe
  observations : InPlace (Ledger.Goes List.IsPrefix) old.observations new.observations

structure FileReport.Extended (old new : FileReport) : Prop where
  uri : new.uri = old.uri
  languageId : new.languageId = old.languageId
  examples : InPlace Record.Extended old.examples new.examples
  lines : InPlace (Ledger.Goes (InPlace Record.Extended)) old.lines new.lines

def Report.Extended (old new : Report) : Prop := InPlace FileReport.Extended old.files new.files

namespace Record.Extended

theorem refl (record : Record) : record.Extended record :=
  ⟨rfl, .refl (Ledger.Goes.refl fun _ => List.prefix_rfl) _⟩

theorem trans (a b c : Record) (first : a.Extended b) (second : b.Extended c) : a.Extended c where
  probe := second.probe.trans first.probe
  observations :=
    first.observations.trans
      (Ledger.Goes.trans fun _ _ _ before after => before.trans after) second.observations

theorem add (name : String) (made : Observation) (record : Record) :
    record.Extended (record.add name made) where
  probe := rfl
  observations := Ledger.upsert_inPlace (fun _ => List.prefix_rfl)
    (fun values => List.prefix_append values [made]) name [made] record.observations

end Record.Extended

namespace FileReport.Extended

theorem records_refl (records : List Record) : InPlace Record.Extended records records :=
  .refl Record.Extended.refl records

theorem refl (file : FileReport) : file.Extended file :=
  ⟨rfl, rfl, records_refl _, .refl (Ledger.Goes.refl records_refl) _⟩

theorem trans (a b c : FileReport) (first : a.Extended b) (second : b.Extended c) :
    a.Extended c where
  uri := second.uri.trans first.uri
  languageId := second.languageId.trans first.languageId
  examples := first.examples.trans Record.Extended.trans second.examples
  lines := first.lines.trans
    (Ledger.Goes.trans fun _ _ _ before after => before.trans Record.Extended.trans after)
    second.lines

variable (line index : Nat) (name : String) (made : Observation) (file : FileReport)

theorem addExample (e : Example) : file.Extended (file.addExample e) :=
  ⟨rfl, rfl, (records_refl _).append _, .refl (Ledger.Goes.refl records_refl) _⟩

theorem addProbe (probe : Probe) : file.Extended (file.addProbe line probe) :=
  ⟨rfl, rfl, records_refl _,
    Ledger.upsert_inPlace records_refl (fun records => (records_refl records).append _) line _ _⟩

theorem observe : file.Extended (file.observe line index name made) :=
  ⟨rfl, rfl, records_refl _,
    Ledger.modify_inPlace records_refl
      (fun records => .modify Record.Extended.refl (Record.Extended.add name made) records index)
      line _⟩

theorem observeExample (location : Location) :
    file.Extended (file.observeExample location name made) :=
  ⟨rfl, rfl, .modifyFirst Record.Extended.refl (Record.Extended.add name made) _ _,
    .refl (Ledger.Goes.refl records_refl) _⟩

theorem observeOrphan_records (records : List Record) :
    InPlace Record.Extended records (FileReport.observeOrphan line name made records) := by
  intro position record found
  rw [getElem?_observeOrphan, found]
  split
  · exact ⟨record.add name made, rfl, .add name made record⟩
  · exact ⟨record, rfl, .refl record⟩

theorem addOrphan : file.Extended (file.addOrphan line name made) :=
  ⟨rfl, rfl, records_refl _,
    Ledger.upsert_inPlace records_refl (observeOrphan_records line name made) line _ _⟩

end FileReport.Extended

namespace Report
variable {old new : Report}

theorem Extended.refl (report : Report) : report.Extended report :=
  InPlace.refl FileReport.Extended.refl report.files

theorem Extended.trans {a b c : Report} (first : a.Extended b) (second : b.Extended c) :
    a.Extended c :=
  InPlace.trans FileReport.Extended.trans first second

theorem Extended.file? (extended : old.Extended new) {uri : String} {file : FileReport}
    (found : old.file? uri = some file) :
    ∃ next, new.file? uri = some next ∧ file.Extended next :=
  InPlace.find? (fun a b related => by rw [related.uri]) extended found

theorem Extended.recordsAt (extended : old.Extended new) (uri : String) (line : Nat) :
    InPlace Record.Extended (old.recordsAt uri line) (new.recordsAt uri line) := by
  cases found : old.file? uri with
  | none =>
    have missing : old.recordsAt uri line = [] := by simp [Report.recordsAt, found]
    rw [missing]
    exact InPlace.nil _
  | some file =>
    obtain ⟨next, later, grown⟩ := extended.file? found
    simp only [Report.recordsAt, found, later, Option.map_some, Option.getD_some,
      FileReport.recordsOn]
    cases here : Ledger.get? line file.lines with
    | none => exact InPlace.nil _
    | some records =>
      obtain ⟨after, there, related⟩ := Ledger.get?_inPlace line grown.lines here
      rw [there]
      exact related

/-- What was read of a line at a position still stands there. -/
theorem Extended.probesAt (extended : old.Extended new) (uri : String) (line : Nat) :
    old.probesAt uri line <+: new.probesAt uri line := by
  rw [probesAt_eq, probesAt_eq]
  exact (extended.recordsAt uri line).map_begins fun _ _ related => related.probe

theorem modifyFile_extended (uri : String) {change : FileReport → FileReport}
    (changed : ∀ file, FileReport.Extended file (change file)) (report : Report) :
    report.Extended (report.modifyFile uri change) :=
  .modifyFirst FileReport.Extended.refl changed _ _

theorem register_extended (uri languageId : String) (report : Report) :
    report.Extended (report.register uri languageId) := by
  unfold register
  split
  · exact .refl report
  · exact (InPlace.refl FileReport.Extended.refl report.files).append _

end Report

namespace Change
open Report

theorem applied_extended (report : Report) (change : Change) :
    report.Extended (change.applied report) := by
  cases change with
  | file uri languageId => exact register_extended uri languageId report
  | «example» e =>
    exact (register_extended _ _ report).trans (modifyFile_extended _ (.addExample · e) _)
  | probe uri line p =>
    rw [applied_probe]
    split
    · exact .refl report
    · exact modifyFile_extended uri (.addProbe line · p) report
  | observation uri line index name made =>
    exact modifyFile_extended uri (.observe line index name made) report
  | exampleObservation e made =>
    exact modifyFile_extended _ (.observeExample e.name made · e.location) report
  | orphan uri line name made =>
    rw [applied_orphan]
    split
    · exact .refl report
    · exact modifyFile_extended uri (.addOrphan line name made) report

theorem foldl_applied_extended (changes : List Change) (report : Report) :
    report.Extended (changes.foldl applied report) := by
  induction changes generalizing report with
  | nil => exact .refl report
  | cons change rest ih => exact (applied_extended report change).trans (ih _)

/-- A change keeps all that is in a report where it is, and so do all changes after it. One
    that is dropped or refused changes nothing, and one that makes an observation else adds
    just this. What was read of a line at some position is found there ever after. -/
theorem changes_keep_and_add (report : Report) (change : Change) (more : List Change) :
    let after := change.applied report
    report.Extended after ∧ after.Extended (more.foldl applied after) ∧
      (change.Dropped report → after = report) ∧
      (∀ misuse, change.apply report = .error misuse → change.Dropped report) ∧
      (∀ place name made, change.observes? report = some (place, name, made) →
        ¬ change.Dropped report → GainsOne place name made report after) ∧
      ∀ uri line, report.probesAt uri line <+: (more.foldl applied after).probesAt uri line := by
  intro after
  have first := applied_extended report change
  have later := foldl_applied_extended more after
  refine ⟨first, later, applied_of_dropped, fun _ => dropped_of_refused, ?_, ?_⟩
  · exact fun _ _ _ observes done => applied_gains observes done
  · exact fun uri line => (first.trans later).probesAt uri line

end Change
end ExampleProbes
