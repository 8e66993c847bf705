import Mathlib.Data.List.Forall2

/-!
Attempts one after another, each of which may fail. An attempt at all of them succeeds just if
each one does.
-/
namespace ExampleProbes
variable {ε α β : Type}

/-- What an answer was made of. -/
theorem bind_eq_ok {first : Except ε α} {next : α → Except ε β} {answer : β}
    (same : (first >>= next) = .ok answer) : ∃ a, first = .ok a ∧ next a = .ok answer := by
  cases first with
  | error fault => cases same
  | ok a => exact ⟨a, rfl, same⟩

theorem bind_congr_of_ok {first : Except ε α} {next other : α → Except ε β}
    (same : ∀ a, first = .ok a → next a = other a) : (first >>= next) = (first >>= other) := by
  cases first with
  | error fault => rfl
  | ok a => exact same a rfl

theorem map_eq_ok {f : α → β} {first : Except ε α} {answer : β}
    (same : f <$> first = .ok answer) : ∃ a, first = .ok a ∧ f a = answer := by
  cases first with
  | error fault => cases same
  | ok a => exact ⟨a, rfl, Except.ok.inj same⟩

theorem forall₂_of_mapM_eq_ok {f : α → Except ε β} {asked : List α} {answers : List β}
    (answered : asked.mapM f = .ok answers) :
    List.Forall₂ (fun a b => f a = .ok b) asked answers := by
  induction asked generalizing answers with
  | nil =>
    cases answered
    exact .nil
  | cons first rest ih =>
    rw [List.mapM_cons] at answered
    obtain ⟨own, found, answered⟩ := bind_eq_ok answered
    obtain ⟨others, later, answered⟩ := bind_eq_ok answered
    cases answered
    exact .cons found (ih later)

end ExampleProbes
