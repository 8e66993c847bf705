import Mathlib.Data.List.Induction
import ExampleProbes.Guest.Script
import ExampleProbes.Proofs.Command.Dispatching

/-!
What a registry holds after any registrations: of each name the command that was registered
last, in the order of these last registrations. So a name reaches the command registered last
under it, and a name that was never registered reaches none.
-/
namespace ExampleProbes.Registry

def registerAll (registry : Registry) (commands : List Command) : Registry :=
  commands.foldl (fun registry command => registry.register command) registry

def Registered (name : String) (history : List Command) : Prop :=
  ∃ command ∈ history, command.name = name

instance (name : String) (history : List Command) : Decidable (Registered name history) :=
  inferInstanceAs (Decidable (∃ command ∈ history, command.name = name))

/-- The command stands in the history, and none behind it has its name. -/
def Lasts (command : Command) (history : List Command) : Prop :=
  ∃ before after, history = before ++ command :: after ∧ ¬ Registered command.name after

/-- The second name is registered once more after the last registration of the first. -/
def LastBefore (history : List Command) (first second : String) : Prop :=
  ∃ before command after, history = before ++ command :: after ∧ command.name = first ∧
    ¬ Registered first after ∧ Registered second after

/-- The registrations that last, in their order. -/
def lasting : List Command → List Command
  | [] => []
  | command :: later =>
    if Registered command.name later then lasting later else command :: lasting later

section Histories
variable {name : String} {first command : Command} {later history : List Command}

theorem registered_cons_iff :
    Registered name (first :: later) ↔ first.name = name ∨ Registered name later := by
  simp [Registered]

theorem lasts_cons_iff : Lasts command (first :: later) ↔
    command = first ∧ ¬ Registered first.name later ∨ Lasts command later := by
  constructor
  · rintro ⟨before, after, written, never⟩
    rcases List.cons_eq_append_iff.mp written with ⟨rfl, here⟩ | ⟨rest, rfl, behind⟩
    · obtain ⟨rfl, rfl⟩ := List.cons.inj here
      exact Or.inl ⟨rfl, never⟩
    · exact Or.inr ⟨rest, after, behind, never⟩
  · rintro (⟨rfl, never⟩ | ⟨before, after, rfl, never⟩)
    · exact ⟨[], later, rfl, never⟩
    · exact ⟨first :: before, after, rfl, never⟩

theorem Lasts.registered (lasts : Lasts command history) : Registered command.name history := by
  obtain ⟨before, after, rfl, _⟩ := lasts
  exact ⟨command, by simp, rfl⟩

theorem LastBefore.cons {one other : String} (before : LastBefore later one other) :
    LastBefore (first :: later) one other := by
  obtain ⟨earlier, command, after, rfl, named, never, again⟩ := before
  exact ⟨first :: earlier, command, after, rfl, named, never, again⟩

theorem LastBefore.ne {one other : String} (before : LastBefore history one other) :
    one ≠ other := by
  rintro rfl
  obtain ⟨_, _, _, _, _, never, again⟩ := before
  exact never again

theorem lasting_cons_of_registered (again : Registered first.name later) :
    lasting (first :: later) = lasting later :=
  if_pos again

theorem lasting_cons_of_not_registered (never : ¬ Registered first.name later) :
    lasting (first :: later) = first :: lasting later :=
  if_neg never

theorem registered_lasting_iff : Registered name (lasting history) ↔ Registered name history := by
  induction history with
  | nil => rfl
  | cons first later ih =>
    by_cases again : Registered first.name later
    · rw [lasting_cons_of_registered again, ih, registered_cons_iff]
      constructor
      · exact Or.inr
      · rintro (rfl | inside)
        · exact again
        · exact inside
    · rw [lasting_cons_of_not_registered again, registered_cons_iff, registered_cons_iff, ih]

/-- A further registration takes the place of the one with its name, but stands at the end. -/
theorem lasting_concat (history : List Command) (command : Command) :
    lasting (history ++ [command]) = register command (lasting history) := by
  induction history with
  | nil => rfl
  | cons first later ih =>
    rw [List.cons_append]
    by_cases same : first.name = command.name
    · have again : Registered first.name (later ++ [command]) := ⟨command, by simp, same.symm⟩
      rw [lasting_cons_of_registered again, ih]
      by_cases before : Registered first.name later
      · rw [lasting_cons_of_registered before]
      · rw [lasting_cons_of_not_registered before, register, register,
          List.filter_cons_of_neg (by simpa using same)]
    · have kept : Registered first.name (later ++ [command]) ↔ Registered first.name later := by
        simp [Registered, or_and_right, exists_or, Ne.symm same]
      by_cases again : Registered first.name later
      · rw [lasting_cons_of_registered (kept.mpr again), lasting_cons_of_registered again, ih]
      · rw [lasting_cons_of_not_registered (mt kept.mp again),
          lasting_cons_of_not_registered again, ih, register, register,
          List.filter_cons_of_pos (by simpa using same), List.cons_append]

theorem names_lasting_ordered (history : List Command) :
    (names (lasting history)).Pairwise (LastBefore history) := by
  induction history with
  | nil => exact .nil
  | cons first later ih =>
    have tail : (names (lasting later)).Pairwise (LastBefore (first :: later)) :=
      ih.imp LastBefore.cons
    by_cases again : Registered first.name later
    · rw [lasting_cons_of_registered again]
      exact tail
    · rw [lasting_cons_of_not_registered again]
      refine List.Pairwise.cons ?_ tail
      intro name member
      obtain ⟨command, inside, named⟩ := List.mem_map.mp member
      have behind := registered_lasting_iff.mp ⟨command, inside, named⟩
      exact ⟨[], first, later, rfl, rfl, again, behind⟩

theorem get?_lasting_iff :
    get? name (lasting history) = some command ↔ command.name = name ∧ Lasts command history := by
  induction history with
  | nil => simp [lasting, get?, Lasts]
  | cons first later ih =>
    rw [lasts_cons_iff]
    by_cases again : Registered first.name later
    · rw [lasting_cons_of_registered again, ih]
      simp [again]
    · rw [lasting_cons_of_not_registered again, get?]
      by_cases named : first.name = name
      · rw [List.find?_cons_of_pos (by simpa using named)]
        constructor
        · intro found
          obtain rfl := Option.some.inj found
          exact ⟨named, Or.inl ⟨rfl, again⟩⟩
        · rintro ⟨same, ⟨rfl, _⟩ | lasts⟩
          · rfl
          · exact absurd (named.trans same.symm ▸ lasts.registered) again
      · rw [List.find?_cons_of_neg (by simpa using named)]
        constructor
        · intro found
          obtain ⟨same, lasts⟩ := ih.mp found
          exact ⟨same, Or.inr lasts⟩
        · rintro ⟨same, ⟨rfl, _⟩ | lasts⟩
          · exact absurd same named
          · exact ih.mpr ⟨same, lasts⟩

theorem get?_lasting_eq_none_iff :
    get? name (lasting history) = none ↔ ¬ Registered name history := by
  rw [← registered_lasting_iff, get?, List.find?_eq_none]
  simp [Registered]

end Histories

/-- A registry that holds what lasts goes on to do so. -/
theorem registerAll_of_lasting {registry : Registry} {history : List Command}
    (holds : registry = lasting history) (commands : List Command) :
    registry.registerAll commands = lasting (history ++ commands) := by
  induction commands using List.reverseRecOn with
  | nil => rw [List.append_nil, ← holds]; rfl
  | append_singleton earlier command ih =>
    rw [← List.append_assoc, lasting_concat, ← ih, registerAll, List.foldl_append]
    rfl

/-- The standard registry is what registering its two commands makes of the empty one. -/
theorem standard_eq_lasting (interpreter : Interpreter) (ties : Ties) (settings : Settings) :
    standard interpreter ties settings = lasting (standard interpreter ties settings) := by
  have built : standard interpreter ties settings =
      registerAll [] [.analysis interpreter ties settings, .display interpreter settings] := rfl
  have empty : ([] : Registry) = lasting [] := rfl
  exact built.trans (registerAll_of_lasting empty _)

/-- After registrations in an empty registry, or in the standard one, whose own commands then
    count as registered first, the names are those registered, each once, in the order of
    their last registrations. A name finds the command registered last under it, and a
    dispatch replies as that command does; it finds nothing just for a name that was never
    registered. -/
theorem names_reach_last_registrations {start : Registry}
    (initial : start = [] ∨
      ∃ interpreter ties settings, start = standard interpreter ties settings)
    (commands : List Command) :
    let registry := start.registerAll commands
    let history := start ++ commands
    (registry.names.Nodup ∧ registry.names.Pairwise (LastBefore history) ∧
      ∀ name, name ∈ registry.names ↔ Registered name history) ∧
    (∀ name command, registry.get? name = some command ↔
      command.name = name ∧ Lasts command history) ∧
    ∀ documents name arguments machine,
      (registry.dispatch documents name arguments machine = none ↔ ¬ Registered name history) ∧
      ∀ command, command.name = name → Lasts command history →
        registry.dispatch documents name arguments machine =
          some (replyOf name command.timeout (command.timeout + grace)
            (command.execute documents arguments ⟨machine, []⟩)) := by
  intro registry history
  have holds : start = lasting start := by
    rcases initial with rfl | ⟨interpreter, ties, settings, rfl⟩
    · rfl
    · exact standard_eq_lasting interpreter ties settings
  have kept : registry = lasting history := registerAll_of_lasting holds commands
  have ordered := names_lasting_ordered history
  rw [kept]
  refine ⟨⟨ordered.imp LastBefore.ne, ordered, ?_⟩, fun name command => get?_lasting_iff, ?_⟩
  · intro name
    rw [← registered_lasting_iff, names, List.mem_map]
    rfl
  · intro documents name arguments machine
    constructor
    · rw [← get?_lasting_eq_none_iff, dispatch, Option.map_eq_none_iff]
    · intro command named lasts
      exact dispatch_of_found (get?_lasting_iff.mpr ⟨named, lasts⟩) documents arguments machine

section Replaced

def silent : Interpreter := ({} : Script).interpreter

def ownAnalysis : Command where
  name := "babylonian_analysis"
  timeout := 100
  execute _ _ := return .string "own"

def echo (timeout : Nat) : Command where
  name := "echo"
  timeout
  execute _ arguments := return .array arguments

theorem analysis_replaced_and_echo_moved :
    let start := standard silent (fun _ => .last) {}
    let registry := start.registerAll [echo 100, ownAnalysis, echo 200]
    (start = [] ∨ ∃ interpreter ties settings, start = standard interpreter ties settings) ∧
      registry.get? "babylonian_analysis" = some ownAnalysis ∧
      registry.get? "echo" = some (echo 200) ∧
      registry.dispatch [] "babylonian_analysis" [] {} =
        some ⟨.string "own", 0, ⟨{}, []⟩⟩ ∧
      registry.dispatch [] "scan" [] {} = none ∧
      registry.names = ["display_expression", "babylonian_analysis", "echo"] := by
  intro start registry
  have initial : start = [] ∨
      ∃ interpreter ties settings, start = standard interpreter ties settings :=
    Or.inr ⟨silent, fun _ => .last, {}, rfl⟩
  obtain ⟨_, found, dispatched⟩ :=
    names_reach_last_registrations initial [echo 100, ownAnalysis, echo 200]
  have own : Lasts ownAnalysis (start ++ [echo 100, ownAnalysis, echo 200]) :=
    ⟨start ++ [echo 100], [echo 200], by simp, by decide⟩
  have last : Lasts (echo 200) (start ++ [echo 100, ownAnalysis, echo 200]) :=
    ⟨start ++ [echo 100, ownAnalysis], [], by simp, by decide⟩
  refine ⟨initial, (found _ _).mpr ⟨rfl, own⟩, (found _ _).mpr ⟨rfl, last⟩, ?_, ?_, by decide⟩
  · exact (dispatched [] _ [] {}).2 ownAnalysis rfl own
  · exact (dispatched [] "scan" [] {}).1.mpr (by decide)

end Replaced

end ExampleProbes.Registry
