import ExampleProbes.Proofs.Report.Changes
import ExampleProbes.Proofs.Command.PlannedFiles
import ExampleProbes.Proofs.Probe.LineBounds
import ExampleProbes.Proofs.Run.Striking

/-!
The changes that an analysis attempts: those that put its plan into an empty report, and
those that a firing makes of the report as it stands. A change is refused where it uses line
0 as a trigger line; of these none is.
-/
namespace ExampleProbes

/-- None of the changes is refused, and one after another they lead to `after`. -/
def Change.Accepted (changes : List Change) (before after : Report) : Prop :=
  changes.foldlM Change.apply before = .ok after

namespace Change.Accepted
variable {changes more : List Change} {a b c : Report}

theorem nil (report : Report) : Accepted [] report report := rfl

theorem cons {change : Change} (first : change.apply a = .ok b) (rest : Accepted changes b c) :
    Accepted (change :: changes) a c := by
  unfold Accepted
  rw [List.foldlM_cons, first]
  exact rest

theorem append (first : Accepted changes a b) (second : Accepted more b c) :
    Accepted (changes ++ more) a c := by
  unfold Accepted at *
  rw [List.foldlM_append, first]
  exact second

/-- One list of changes for each member, and one step of the report. -/
theorem flatMap {α : Type} {made : α → List Change} {step : Report → α → Report} {xs : List α}
    (each : ∀ x ∈ xs, ∀ report, Accepted (made x) report (step report x)) (report : Report) :
    Accepted (xs.flatMap made) report (xs.foldl step report) := by
  induction xs generalizing report with
  | nil => exact nil report
  | cons x rest ih =>
    obtain ⟨first, others⟩ := List.forall_mem_cons.mp each
    rw [List.flatMap_cons, List.foldl_cons]
    exact (first report).append (ih others (step report x))

theorem map {α : Type} {made : α → Change} {step : Report → α → Report} {xs : List α}
    (each : ∀ x ∈ xs, ∀ report, (made x).apply report = .ok (step report x)) (report : Report) :
    Accepted (xs.map made) report (xs.foldl step report) := by
  rw [List.map_eq_flatMap]
  exact flatMap (fun x member report => cons (each x member report) (nil _)) report

end Change.Accepted

theorem Change.apply_probe {line : Nat} (numbered : 1 ≤ line) (uri : String) (probe : Probe)
    (report : Report) :
    (Change.probe uri line probe).apply report = .ok (report.addProbe uri line probe) := by
  rw [apply, run_probe, if_neg (by omega)]

theorem Change.apply_orphan {line : Nat} (numbered : 1 ≤ line) (uri name : String)
    (made : Observation) (report : Report) : (Change.orphan uri line name made).apply report =
      .ok (report.observeOrphan uri line name made) := by
  rw [apply, run_orphan, if_neg (by omega)]

section Firing
variable (name : String) (firing : Firing)

/-- What the probes at positions from `index` on make of a firing. -/
def observationsFrom (index : Nat) : List Probe → List Change
  | [] => []
  | probe :: rest =>
    if probe.appliesTo name then
      .observation firing.uri firing.line index name (probe.evaluate firing) ::
        observationsFrom (index + 1) rest
    else observationsFrom (index + 1) rest

/-- The changes that a firing attempts. -/
def Firing.changes (report : Report) : List Change :=
  if firing.line = 0 then []
  else
    match report.probesAt firing.uri firing.line with
    | [] => [.orphan firing.uri firing.line name (.ofOutcome firing.source firing.outcome)]
    | probes => observationsFrom name firing 0 probes

theorem observationsFrom_accepted (index : Nat) (probes : List Probe) (machine : Machine) :
    Change.Accepted (observationsFrom name firing index probes) machine.report
      (machine.fireProbes name firing index probes).report := by
  induction probes generalizing index machine with
  | nil => exact .nil _
  | cons probe rest ih =>
    unfold observationsFrom Machine.fireProbes
    by_cases applies : probe.appliesTo name
    · rw [if_pos applies]
      have fired : (machine.fireProbe name firing index probe).report =
          machine.report.observe firing.uri firing.line index name (probe.evaluate firing) := by
        rw [Machine.fireProbe_eq, if_pos applies]
        simp only [Machine.change, Machine.ask_report]
      refine .cons ?_ (ih (index + 1) _)
      rw [fired]
      rfl
    · rw [if_neg applies]
      simp only [Machine.fireProbe, applies, Bool.false_eq_true, ↓reduceIte]
      exact ih (index + 1) machine

theorem firing_accepted (machine : Machine) :
    Change.Accepted (firing.changes name machine.report) machine.report
      (machine.fire name firing).report := by
  unfold Firing.changes Machine.fire
  by_cases unnumbered : firing.line = 0
  · rw [if_pos unnumbered, if_pos unnumbered]
    exact .nil _
  · rw [if_neg unnumbered, if_neg unnumbered]
    cases machine.report.probesAt firing.uri firing.line with
    | nil => exact .cons (Change.apply_orphan (Nat.pos_of_ne_zero unnumbered) ..) (.nil _)
    | cons probe rest => exact observationsFrom_accepted name firing 0 (probe :: rest) machine

end Firing

namespace Analysis

def selectionChanges (target : Document) (selection : Option Selection) : List Change :=
  selection.toList.map fun chosen =>
    .probe target.uri chosen.probeLine (.selection chosen.probeLine chosen.text)

def documentChanges (document : Document) : List Change :=
  let found := Annotations.ofDocument document
  found.examples.map .example ++
    found.probes.map fun probe => .probe document.uri probe.triggerLine probe

/-- The changes that make the planned report of an empty one. -/
def planChanges (documents : List Document) (target : Document) (selection : Option Selection) :
    List Change :=
  documents.map (fun document => .file document.uri document.languageId) ++
    selectionChanges target selection ++ documents.flatMap documentChanges

theorem selectionChanges_accepted (target : Document) (selection : Option Selection)
    (report : Report) :
    Change.Accepted (selectionChanges target selection) report
      (addSelection target selection report) := by
  cases selection with
  | none => exact .nil report
  | some chosen =>
    exact .cons (Change.apply_probe (one_le_nextLine chosen.line) _ _ report) (.nil _)

theorem documentChanges_accepted (document : Document) (report : Report) :
    Change.Accepted (documentChanges document) report
      (addFound document.uri (Annotations.ofDocument document) report) := by
  refine .append (.map (fun _ _ _ => rfl) report) (.map (fun probe member before => ?_) _)
  obtain ⟨_, first, shown, _⟩ := Annotations.ofDocument_scanned document probe member
  exact Change.apply_probe (by omega) document.uri probe before

theorem planChanges_accepted (documents : List Document) (target : Document)
    (selection : Option Selection) :
    Change.Accepted (planChanges documents target selection) {}
      (planFor documents target selection).report := by
  rw [planFor_report]
  have registered : Change.Accepted
      (documents.map fun document => .file document.uri document.languageId) {}
      (registerAll documents) := .map (fun _ _ _ => rfl) {}
  have selected := selectionChanges_accepted target selection (registerAll documents)
  exact (registered.append selected).append
    (.flatMap (fun document _ report => documentChanges_accepted document report) _)

end Analysis
end ExampleProbes
