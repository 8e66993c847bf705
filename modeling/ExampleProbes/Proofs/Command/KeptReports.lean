import ExampleProbes.Proofs.Command.LastNotification
import ExampleProbes.Proofs.Command.PlannedFiles
import ExampleProbes.Proofs.Run.Attribution

/-!
What holds of all reports of an analysis. The planned report has records for what was found
in the documents and for the selection. Loading documents does not touch it, and running
examples changes it by the steps of firings and by outcomes only. So what holds of the
planned report and is kept by these holds in every state, of every report that is sent and
of the one in the answer.
-/
namespace ExampleProbes.Analysis
open Process

/-- A planned report holds what new records satisfy for what is found and selected. -/
theorem planFor_holds {own : String → Record → Prop} {onLine : String → Nat → Record → Prop}
    {documents : List Document} {target : Document} {selection : Option Selection}
    (examples : ∀ document ∈ documents, ∀ e ∈ (Annotations.ofDocument document).examples,
      own e.location.uri { probe := .ofExample e })
    (probes : ∀ document ∈ documents, ∀ p ∈ (Annotations.ofDocument document).probes,
      onLine document.uri p.triggerLine { probe := p })
    (selected : ∀ chosen, selection = some chosen →
      onLine target.uri chosen.probeLine
        { probe := .selection chosen.probeLine chosen.text }) :
    (planFor documents target selection).report.Holds own onLine := by
  have registered : (registerAll documents).Holds own onLine :=
    List.foldlRecOn documents _ .empty fun _ held document _ =>
      held.register document.uri document.languageId
  have chosen : (addSelection target selection (registerAll documents)).Holds own onLine := by
    cases selection with
    | none => exact registered
    | some chosen => exact registered.addProbe (selected chosen rfl)
  rw [planFor_report]
  refine List.foldlRecOn documents _ chosen fun report held document among => ?_
  have listed := List.foldlRecOn (motive := Report.Holds own onLine)
    (Annotations.ofDocument document).examples (fun r e => r.addExample e) held
    fun _ before e member => before.addExample (examples document among e member)
  exact List.foldlRecOn _ _ listed fun _ before p member =>
    before.addProbe (probes document among p member)

variable (interpreter : Interpreter) (ties : Ties)

theorem work_reports_advance {later : Report → Report → Prop} (forward : Course.Forward later)
    (fired : ∀ name firing a b, Report.Fired name firing a b → later a b)
    (settled : ∀ report e made, later report (report.observeExample e made))
    (documents : List Document) (examples : List Example) :
    Advances (fun a b : Machine => later a.report b.report)
      (work interpreter documents examples) := by
  have onward := forward.comap Machine.report
  have loading := loadAll_advances interpreter onward (fun m _ => forward.refl m.report) documents
  refine advances_bind onward loading fun loaded => ?_
  cases loaded with
  | error failure => exact advances_pure onward _
  | ok done =>
    have running := Run.runAll_reports_advance forward fired settled interpreter examples
    exact advances_bind onward running fun _ => advances_pure onward _

/-- The report of the session has the property, and so has every report that was sent. -/
def AllReports (kept : Report → Prop) (session : Session) : Prop :=
  kept session.machine.report ∧ ∀ push ∈ session.sent, kept push.report

theorem AllReports.push {kept : Report → Prop} (reporter : Reporter) (session : Session)
    (held : AllReports kept session) : AllReports kept (reporter.push session) :=
  ⟨held.1, List.forall_mem_append.mpr ⟨held.2, List.forall_mem_singleton.mpr held.1⟩⟩

section Kept
variable {kept : Report → Prop}
  (fired : ∀ name firing a b, Report.Fired name firing a b → kept a → kept b)
  (settled : ∀ report e made, kept report → kept (report.observeExample e made))
include fired settled

theorem workCourse_keeps (settings : Settings) (documents : List Document) {plan : Plan}
    (planned : kept plan.report) (machine : Machine) :
    (workCourse interpreter settings documents plan machine).Keeps
      (fun m => kept m.report) fun _ m => kept m.report := by
  let start : Machine := { machine with report := plan.report }
  have working : (work interpreter documents plan.examples start).Keeps
      (fun m => kept m.report) fun _ m => kept m.report :=
    (work_reports_advance interpreter (Course.forward_of_invariant kept) fired settled documents
      plan.examples start).keeps planned
  refine (working.cut Machine.release settings.timeout).mono (fun _ => id) fun value m ended => ?_
  cases value with
  | some value => exact ended
  | none =>
    obtain ⟨left, held, rfl⟩ := ended
    rwa [Machine.release_eq]

theorem run_keeps {settings : Settings} {documents : List Document} {arguments : List Json}
    (planned : ∀ plan, Analysis.plan settings documents arguments = .ok plan → kept plan.report)
    {machine : Machine} (before : kept machine.report) :
    (run interpreter ties settings documents arguments ⟨machine, []⟩).Keeps (AllReports kept)
      fun value session => AllReports kept session ∧ ∀ report, value = .ok report → kept report := by
  unfold run
  split
  · exact ⟨⟨before, List.forall_mem_nil _⟩, fun report same => by cases same⟩
  · rename_i plan accepted
    have working := workCourse_keeps interpreter fired settled settings documents
      (planned plan accepted) machine
    refine (working.beside ties (fun _ => id) (.start settings) (List.forall_mem_nil _)).bind
      fun ended session held => ?_
    have last : AllReports kept (ended.1.finish ties session).2 :=
      Reporter.finish_keeps AllReports.push held
    refine ⟨last, fun report same => ?_⟩
    dsimp only [verdict] at same
    split at same
    · cases same
    · cases same
    · cases same
      exact last.1

end Kept
end ExampleProbes.Analysis
