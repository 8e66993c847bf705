import ExampleProbes.Proofs.Report.Blank

/-!
The order of the records of a file. Probes that are put in by ascending trigger line stand in
the order in which they were put in, except that a trigger line that was there before keeps
its place; and orphans stand behind them, one for each line that was fired at and had no
record, in the order of the first firing.
-/
namespace ExampleProbes

namespace Ledger

theorem get?_eq_none_iff {κ ν : Type} [DecidableEq κ] {key : κ} {ledger : Ledger κ ν} :
    get? key ledger = none ↔ key ∉ keys ledger := by
  induction ledger with
  | nil => simp [get?, keys]
  | cons entry rest ih =>
    by_cases here : entry.1 = key
    · simp [get?, here]
    · simp [get?, here, Ne.symm here, ih]

variable {β : Type}

/-- Entries put in one after the other, each behind the values of its key. -/
def gather (entries : List (Nat × β)) (ledger : Ledger Nat (List β)) : Ledger Nat (List β) :=
  entries.foldl (fun l entry => upsert entry.1 (· ++ [entry.2]) [entry.2] l) ledger

theorem mem_keys_upsert {k key : Nat} {change : List β → List β} {new : List β}
    {ledger : Ledger Nat (List β)} :
    k ∈ keys (upsert key change new ledger) ↔ k ∈ keys ledger ∨ k = key := by
  rw [keys_upsert]
  split
  · rename_i known
    constructor
    · exact Or.inl
    · rintro (old | rfl)
      · exact old
      · exact known
  · simp

theorem mem_keys_gather {key : Nat} (entries : List (Nat × β)) (ledger : Ledger Nat (List β)) :
    key ∈ keys (gather entries ledger) ↔ key ∈ keys ledger ∨ key ∈ entries.map Prod.fst := by
  induction entries generalizing ledger with
  | nil => simp [gather]
  | cons entry rest ih =>
    have next := ih (upsert entry.1 (· ++ [entry.2]) [entry.2] ledger)
    rw [mem_keys_upsert, or_assoc] at next
    simpa [gather] using next

theorem gather_filled {entries : List (Nat × β)} {ledger : Ledger Nat (List β)}
    (filled : ∀ entry ∈ ledger, entry.2 ≠ []) : ∀ entry ∈ gather entries ledger, entry.2 ≠ [] :=
  List.foldlRecOn (motive := fun l : Ledger Nat (List β) => ∀ entry ∈ l, entry.2 ≠ []) entries _ filled
    fun _ held _ _ => forall_upsert held (fun _ _ _ => by simp) (by simp)

/-- The values of a key that stands first gather there, the others behind. -/
theorem gather_cons (key : Nat) (values : List β) (entries : List (Nat × β))
    (ledger : Ledger Nat (List β)) :
    gather entries ((key, values) :: ledger) =
      (key, values ++ (entries.filter (·.1 = key)).map Prod.snd) ::
        gather (entries.filter (·.1 ≠ key)) ledger := by
  induction entries generalizing values ledger with
  | nil => simp [gather]
  | cons entry rest ih =>
    by_cases here : entry.1 = key
    · have next := ih (values ++ [entry.2]) ledger
      simpa [gather, upsert, here] using next
    · have next := ih values (upsert entry.1 (· ++ [entry.2]) [entry.2] ledger)
      simpa [gather, upsert, here, Ne.symm here] using next

section Ascending
variable {key : Nat} {ledger : Ledger Nat (List β)} (ascending : (keys ledger).Pairwise (· < ·))
  (last : ∀ k ∈ keys ledger, k ≤ key)
include ascending last

theorem flatMap_upsert_last (value : β) :
    (upsert key (· ++ [value]) [value] ledger).flatMap Prod.snd =
      ledger.flatMap Prod.snd ++ [value] := by
  induction ledger with
  | nil => simp [upsert]
  | cons entry rest ih =>
    obtain ⟨below, others⟩ := List.pairwise_cons.mp ascending
    by_cases here : entry.1 = key
    · have none : rest = [] := by
        cases rest with
        | nil => rfl
        | cons next more =>
          have above := below next.1 (by simp)
          have bound := last next.1 (by simp)
          omega
      simp [upsert, here, none]
    · have later := ih others fun k member => last k (List.mem_cons_of_mem _ member)
      simp [upsert, here, later]

theorem ascending_upsert (change : List β → List β) (new : List β) :
    (keys (upsert key change new ledger)).Pairwise (· < ·) := by
  rw [keys_upsert]
  split
  · exact ascending
  · rename_i absent
    refine List.pairwise_append.mpr ⟨ascending, by simp, ?_⟩
    intro k member other same
    obtain rfl := List.mem_singleton.mp same
    have bound := last k member
    have different : k ≠ other := fun equal => absent (equal ▸ member)
    omega

end Ascending

/-- Entries that come in by ascending key stay in their order. -/
theorem flatMap_gather {entries : List (Nat × β)} {ledger : Ledger Nat (List β)}
    (ordered : entries.Pairwise fun a b => a.1 ≤ b.1)
    (ascending : (keys ledger).Pairwise (· < ·))
    (behind : ∀ k ∈ keys ledger, ∀ entry ∈ entries, k ≤ entry.1) :
    (gather entries ledger).flatMap Prod.snd =
      ledger.flatMap Prod.snd ++ entries.map Prod.snd := by
  induction entries generalizing ledger with
  | nil => simp [gather]
  | cons entry rest ih =>
    obtain ⟨first, others⟩ := List.pairwise_cons.mp ordered
    have last : ∀ k ∈ keys ledger, k ≤ entry.1 := fun k member => behind k member entry (by simp)
    have next := ih others (ascending_upsert ascending last (· ++ [entry.2]) [entry.2]) (by
      intro k member later inside
      rw [keys_upsert] at member
      have bound := first later inside
      split at member
      · have before := last k member
        omega
      · rcases List.mem_append.mp member with old | new
        · have before := last k old
          omega
        · have same := List.mem_singleton.mp new
          omega)
    rw [flatMap_upsert_last ascending last] at next
    simpa [gather] using next

theorem flatMap_gather_nil {entries : List (Nat × β)}
    (ordered : entries.Pairwise fun a b => a.1 ≤ b.1) :
    (gather entries []).flatMap Prod.snd = entries.map Prod.snd :=
  flatMap_gather ordered List.Pairwise.nil (List.forall_mem_nil _)

end Ledger

namespace FileReport

theorem recordsOn_eq_nil_iff {file : FileReport} (filled : ∀ entry ∈ file.lines, entry.2 ≠ [])
    (line : Nat) : file.recordsOn line = [] ↔ line ∉ file.lines.keys := by
  rw [← Ledger.get?_eq_none_iff, recordsOn]
  cases found : Ledger.get? line file.lines with
  | none => simp
  | some records => simpa using filled _ (Ledger.mem_of_get? found)

theorem claiming_of_filled {file : FileReport} (filled : ∀ entry ∈ file.lines, entry.2 ≠ [])
    (line : Nat) : file.claiming line =
      if line ≠ 0 ∧ line ∉ file.lines.keys then
        { file with lines := file.lines ++ [(line, [{ probe := .orphan line }])] }
      else file := by
  unfold claiming
  by_cases fresh : line ≠ 0 ∧ line ∉ file.lines.keys
  · have empty := (recordsOn_eq_nil_iff filled line).mpr fresh.2
    rw [if_pos ⟨fresh.1, empty⟩, if_pos fresh, addProbe, Ledger.upsert_of_not_mem fresh.2]
  · rw [if_neg fresh, if_neg]
    intro both
    exact fresh ⟨both.1, (recordsOn_eq_nil_iff filled line).mp both.2⟩

/-- The lines that get an orphan when all of `fired` are fired at, in this order. -/
def orphaned (claimed fired : List Nat) : List Nat :=
  (fired.filter fun line => line ≠ 0 ∧ line ∉ claimed).eraseDups

theorem orphaned_concat (claimed earlier : List Nat) (line : Nat) :
    orphaned claimed (earlier ++ [line]) =
      if line ≠ 0 ∧ line ∉ claimed ++ orphaned claimed earlier then
        orphaned claimed earlier ++ [line]
      else orphaned claimed earlier := by
  unfold orphaned
  rw [List.filter_append]
  by_cases fresh : line ≠ 0 ∧ line ∉ claimed
  · have kept : [line].filter (fun l => l ≠ 0 ∧ l ∉ claimed) = [line] := by simp [fresh]
    rw [kept, eraseDups_concat]
    simp only [List.mem_append, List.mem_eraseDups, fresh, false_or, ne_eq, not_false_eq_true,
      true_and, ite_not]
  · have dropped : [line].filter (fun l => l ≠ 0 ∧ l ∉ claimed) = [] := by simpa using fresh
    have known : ¬ (line ≠ 0 ∧ line ∉ claimed ++
        (earlier.filter fun l => l ≠ 0 ∧ l ∉ claimed).eraseDups) := by
      intro both
      exact fresh ⟨both.1, fun inside => both.2 (List.mem_append_left _ inside)⟩
    rw [dropped, List.append_nil, if_neg known]

theorem foldl_claiming (fired : List Nat) {file : FileReport}
    (filled : ∀ entry ∈ file.lines, entry.2 ≠ []) :
    fired.foldl (fun f line => f.claiming line) file =
      { file with
        lines := file.lines ++
          (orphaned file.lines.keys fired).map fun line => (line, [{ probe := .orphan line }]) } := by
  induction fired using List.reverseRecOn with
  | nil => simp [orphaned]
  | append_singleton earlier line ih =>
    rw [List.foldl_concat, ih, orphaned_concat]
    generalize orphaned file.lines.keys earlier = before
    have keys : Ledger.keys (file.lines ++
        before.map fun line => (line, [({ probe := .orphan line } : Record)])) =
          file.lines.keys ++ before := by
      simp [Ledger.keys, Function.comp_def]
    have nonempty : ∀ entry ∈ file.lines ++
        before.map fun line => (line, [({ probe := .orphan line } : Record)]), entry.2 ≠ [] := by
      intro entry member
      rcases List.mem_append.mp member with old | new
      · exact filled entry old
      · obtain ⟨orphan, _, rfl⟩ := List.mem_map.mp new
        simp
    rw [claiming_of_filled nonempty, keys]
    split
    · rw [List.map_append, List.append_assoc]
      rfl
    · rfl

theorem orphaned_congr {claimed other : List Nat} (same : ∀ line, line ∈ claimed ↔ line ∈ other)
    (fired : List Nat) : orphaned claimed fired = orphaned other fired := by
  simp only [orphaned, same]

theorem keys_blank (file : FileReport) : file.blank.lines.keys = file.lines.keys := by
  simp [blank, Ledger.keys, Function.comp_def]

theorem filled_blank {file : FileReport} (filled : ∀ entry ∈ file.lines, entry.2 ≠ []) :
    ∀ entry ∈ file.blank.lines, entry.2 ≠ [] := by
  intro entry member
  obtain ⟨source, inside, rfl⟩ := List.mem_map.mp member
  simpa using filled source inside

theorem probes_blank (file : FileReport) :
    file.blank.records.map (·.probe) = file.records.map (·.probe) := by
  simp [blank, records, Record.blank, List.map_flatMap, List.flatMap_map, Function.comp_def]

end FileReport
end ExampleProbes
