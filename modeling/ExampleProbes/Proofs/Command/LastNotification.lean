import ExampleProbes.Proofs.Command.Dispatching
import ExampleProbes.Proofs.Run.HookRelease
import ExampleProbes.Proofs.Run.Pushes

/-!
How an analysis ends. The work on a plan, given up at the time allowed, leaves no hook
behind. What the client is sent are the reports at the ticks before the end, and at the end
one more with all observations made by then; the answer agrees with it, or tells what went
wrong and holds no report.
-/
namespace ExampleProbes.Analysis
open Process
variable (interpreter : Interpreter)

variable (ties : Ties)

/-- What is sent of a course that ends at `stop` before it is over: at each tick the report as
    it stands then. -/
def pushes {α : Type} (settings : Settings) (course : Course Machine α) (stop : Nat) :
    List Notification :=
  ((Timer.ofSettings settings).ticks (ties.close stop)).map fun time =>
    ⟨time, settings.notificationMethod, (course.stateAt (ties.sight time)).report⟩

/-- A tick comes before the end, or at the end and before the run has cancelled. -/
theorem time_of_close {stop time : Nat} (early : time < ties.close stop) :
    time < stop ∨ time = stop ∧ ties stop ≠ .last := by
  unfold Ties.close at early
  split at early
  · exact .inl early
  · rename_i tie
    rcases Nat.lt_or_eq_of_le (Nat.le_of_lt_succ early) with before | same
    · exact .inl before
    · exact .inr ⟨same, tie⟩

theorem sight_le {stop time : Nat} (early : time < ties.close stop) : ties.sight time ≤ stop := by
  have bound := time_of_close ties early
  unfold Ties.sight
  split <;> omega

theorem loadAll_advances {later : Machine → Machine → Prop} (forward : Course.Forward later)
    (loaded : ∀ m document, later m (m.log (.load document)))
    (documents : List Document) : Advances later (loadAll interpreter documents) := by
  induction documents with
  | nil => exact advances_pure forward _
  | cons document rest ih =>
    refine advances_bind forward (Run.consult_advances _ fun m => loaded m _) fun answer => ?_
    refine advances_bind forward (advances_sleep forward _) fun _ => ?_
    cases answer.value with
    | error fault => exact advances_pure forward _
    | ok loaded => exact ih

/-- While the work goes on, giving it up would leave no hook; when it ends there is none. -/
theorem work_keeps (documents : List Document) (examples : List Example) {start : Machine}
    (idle : start.Idle) :
    (work interpreter documents examples start).Keeps (fun m => m.release.Idle)
      fun _ => Machine.Idle := by
  have settled : ∀ m : Machine, m.Idle → m.release.Idle := by
    intro m free
    rwa [Machine.release_of_held_nil free.2]
  have loading := loadAll_advances interpreter (Course.forward_of_invariant Machine.Idle)
    (fun _ _ free => free) documents
  refine (((loading start).keeps idle).mono settled fun _ _ => id).bind fun loaded m free => ?_
  cases loaded with
  | error failure => exact free
  | ok done =>
    have running := Run.runAll_releases interpreter examples free
    have seen : ∀ now, Midway examples m now → now.release.Idle := by
      rintro now ⟨_, _, _, _, _, _, running⟩
      exact running.release.idle
    exact (running.mono seen fun _ _ => id).bind fun _ now released => released.idle

section WorkCourse
variable (settings : Settings) (documents : List Document) (plan : Plan) (machine : Machine)

def wholeCourse : Course Machine (Except Failure Unit) :=
  work interpreter documents plan.examples { machine with report := plan.report }

/-- How the work ends, where the time allowed may end it first. -/
def ending : Except Failure Unit :=
  let course := wholeCourse interpreter documents plan machine
  if course.elapsed ≤ settings.timeout then course.value else .error (.timeout settings.timeout)

theorem workCourse_eq :
    workCourse interpreter settings documents plan machine =
      (wholeCourse interpreter documents plan machine).cut Machine.release settings.timeout := rfl

theorem workCourse_elapsed :
    (workCourse interpreter settings documents plan machine).elapsed =
      min (wholeCourse interpreter documents plan machine).elapsed settings.timeout :=
  Course.cut_elapsed Machine.release settings.timeout _

theorem workCourse_idle {machine : Machine} (idle : machine.Idle) :
    (workCourse interpreter settings documents plan machine).final.Idle := by
  have keeps : (wholeCourse interpreter documents plan machine).Keeps
      (fun m => m.release.Idle) fun _ => Machine.Idle :=
    work_keeps interpreter documents plan.examples idle
  have ends := (keeps.cut Machine.release settings.timeout).ends
  rw [← workCourse_eq] at ends
  cases value : (workCourse interpreter settings documents plan machine).value with
  | some outcome =>
    rw [value] at ends
    exact ends
  | none =>
    rw [value] at ends
    obtain ⟨left, released, same⟩ := ends
    rwa [same]

theorem workCourse_report (time : Nat) :
    ((workCourse interpreter settings documents plan machine).stateAt time).report =
      ((wholeCourse interpreter documents plan machine).stateAt
        (min time settings.timeout)).report := by
  let whole := wholeCourse interpreter documents plan machine
  rw [workCourse_eq]
  by_cases early : time < settings.timeout
  · rw [Course.cut_stateAt Machine.release early, Nat.min_eq_left (Nat.le_of_lt early)]
  · have ended : (whole.cut Machine.release settings.timeout).elapsed ≤ time := by
      rw [Course.cut_elapsed]
      omega
    rw [Course.stateAt_of_elapsed_le _ _ ended, Course.cut_final, Nat.min_eq_right (by omega)]
    split
    · rename_i completed
      rw [Course.stateAt_of_elapsed_le _ _ completed]
    · rw [Machine.release_eq]

theorem workCourse_final :
    (workCourse interpreter settings documents plan machine).final.report =
      ((wholeCourse interpreter documents plan machine).stateAt
        (workCourse interpreter settings documents plan machine).elapsed).report := by
  have ends := workCourse_report interpreter settings documents plan machine
    (workCourse interpreter settings documents plan machine).elapsed
  rw [Course.stateAt_of_elapsed_le _ _ (Nat.le_refl _)] at ends
  rw [ends, workCourse_elapsed, Nat.min_assoc, Nat.min_self]

theorem workCourse_pushes :
    pushes ties settings (workCourse interpreter settings documents plan machine)
        (workCourse interpreter settings documents plan machine).elapsed =
      pushes ties settings (wholeCourse interpreter documents plan machine)
        (workCourse interpreter settings documents plan machine).elapsed := by
  refine List.map_congr_left fun time member => ?_
  have early := sight_le ties (Timer.mem_ticks.mp member).2
  rw [workCourse_elapsed] at early
  rw [workCourse_report, Nat.min_eq_left (by omega)]

theorem workCourse_verdict (report : Report) :
    verdict settings (workCourse interpreter settings documents plan machine).value report =
      (ending interpreter settings documents plan machine).map fun _ => report := by
  rw [workCourse_eq, Course.cut_value, ending]
  by_cases completed :
      (wholeCourse interpreter documents plan machine).elapsed ≤ settings.timeout
  · simp only [completed, ↓reduceIte]
    cases (wholeCourse interpreter documents plan machine).value <;> rfl
  · simp only [completed, ↓reduceIte]
    rfl

end WorkCourse

theorem run_of_refused {settings : Settings} {documents : List Document} {arguments : List Json}
    {failure : Failure} (refused : Analysis.plan settings documents arguments = .error failure)
    (machine : Machine) : run interpreter ties settings documents arguments ⟨machine, []⟩ =
      .done ⟨machine, []⟩ (.error failure) := by
  simp only [run, refused]

/-- A plan is made for a document that is open. -/
theorem planFor_of_plan {settings : Settings} {documents : List Document} {arguments : List Json}
    {plan : Plan} (accepted : Analysis.plan settings documents arguments = .ok plan) :
    ∃ asked target, AnalysisArguments.of arguments = .ok asked ∧
      openDocument? documents asked.uri = some target ∧
        plan = planFor documents target asked.selection := by
  unfold Analysis.plan at accepted
  cases parsed : AnalysisArguments.of arguments with
  | error failure => simp [parsed, Bind.bind, Except.bind] at accepted
  | ok asked =>
    cases valid : settings.valid with
    | error failure => simp [parsed, valid, Bind.bind, Except.bind] at accepted
    | ok done =>
      cases found : openDocument? documents asked.uri with
      | none => simp [parsed, valid, found, Bind.bind, Except.bind] at accepted
      | some target =>
        simp only [parsed, valid, found, Bind.bind, Except.bind, Pure.pure, Except.pure,
          Except.ok.injEq] at accepted
        exact ⟨asked, target, rfl, found, accepted.symm⟩

/-- An analysis of a plan takes the time of its work, and ends by sending what it has. -/
theorem run_of_plan {settings : Settings} {documents : List Document} {arguments : List Json}
    {plan : Plan} (accepted : Analysis.plan settings documents arguments = .ok plan)
    (machine : Machine) :
    let course := workCourse interpreter settings documents plan machine
    let run := run interpreter ties settings documents arguments ⟨machine, []⟩
    run.elapsed = course.elapsed ∧ run.value = verdict settings course.value course.final.report ∧
      run.final = (Session.mk course.final (pushes ties settings course course.elapsed)).send
        course.elapsed settings.notificationMethod := by
  intro course outcome
  let reporter := Reporter.start settings
  let beside := course.beside ties reporter []
  let last := (beside.value.1.finish ties beside.final).2
  have whole : outcome = beside.bind fun ended session =>
      let last := (ended.1.finish ties session).2
      .done last (verdict settings ended.2 last.machine.report) := by
    simp only [outcome, run, accepted]
    rfl
  have machine : last.machine = course.final :=
    (Reporter.finish_machine ties _ _).trans (course.beside_machine ties reporter [])
  have sent : last.sent = pushes ties settings course course.elapsed ++
      [⟨course.elapsed, settings.notificationMethod, course.final.report⟩] := by
    have sends := course.beside_finish ties reporter rfl (Nat.zero_le _) []
    have begins : reporter.now + course.elapsed = course.elapsed := Nat.zero_add _
    simp only [begins, List.nil_append] at sends
    exact sends
  refine ⟨?_, ?_, ?_⟩
  · rw [whole, Course.bind_elapsed, Course.beside_elapsed]
    rfl
  · rw [whole, Course.bind_value]
    show verdict settings beside.value.2 last.machine.report = _
    rw [machine, Course.beside_value]
  · rw [whole, Course.bind_final]
    show (⟨last.machine, last.sent⟩ : Session) = _
    rw [machine, sent]
    rfl

/-- An analysis that ends within its budget and the grace is answered by itself. -/
theorem dispatch_analysis (settings : Settings) (documents : List Document)
    (arguments : List Json) (machine : Machine)
    {outcome : Course Session (Except Failure Report)}
    (runs : run interpreter ties settings documents arguments ⟨machine, []⟩ = outcome)
    (inTime : outcome.elapsed ≤ settings.timeout + Registry.grace) :
    (Registry.standard interpreter ties settings).dispatch documents "babylonian_analysis" arguments
      machine = some ⟨answer outcome.value, outcome.elapsed, outcome.final⟩ := by
  have found : (Registry.standard interpreter ties settings).get? "babylonian_analysis" =
      some (.analysis interpreter ties settings) := rfl
  have whole : (Command.analysis interpreter ties settings).execute documents arguments
      ⟨machine, []⟩ = outcome.bind fun verdict session => .done session (answer verdict) := by
    rw [← runs]
    rfl
  have elapsed : (outcome.bind fun verdict session =>
      (Course.done session (answer verdict) : Course Session Json)).elapsed = outcome.elapsed := by
    rw [Course.bind_elapsed]
    rfl
  rw [Registry.dispatch_of_found found, whole, Registry.replyOf_inTime (elapsed ▸ inTime), elapsed,
    Course.bind_value, Course.bind_final]
  rfl

/-- Every analysis ends within its budget, whatever it waits for. -/
theorem run_elapsed_le_timeout (settings : Settings) (documents : List Document)
    (arguments : List Json) (machine : Machine) :
    (run interpreter ties settings documents arguments ⟨machine, []⟩).elapsed ≤
      settings.timeout := by
  cases outcome : plan settings documents arguments with
  | error failure =>
    rw [run_of_refused interpreter ties outcome machine]
    exact Nat.zero_le _
  | ok plan =>
    obtain ⟨elapsed, _⟩ := run_of_plan interpreter ties outcome machine
    have length := workCourse_elapsed interpreter settings documents plan machine
    omega

theorem run_elapsed_le (settings : Settings) (documents : List Document) (arguments : List Json)
    (machine : Machine) :
    (run interpreter ties settings documents arguments ⟨machine, []⟩).elapsed ≤
      settings.timeout + Registry.grace :=
  Nat.le_add_right_of_le
    (run_elapsed_le_timeout interpreter ties settings documents arguments machine)

/-- A dispatch that is refused makes no call and sends nothing. Every other one sends the
    reports at the ticks on its way, and last, when no hook sits any more, the report as it
    stands at its end. The answer has the files of that report if all examples were run, and
    else only the error. -/
theorem analysis_ends_with_one_notification (settings : Settings) (documents : List Document)
    (arguments : List Json) (report : Report) (attached : Nat) (calls : List Call) :
    let machine : Machine := { report, attached, calls }
    ∃ reply, (Registry.standard interpreter ties settings).dispatch documents "babylonian_analysis"
        arguments machine = some reply ∧
      match plan settings documents arguments with
      | .error failure =>
        reply.session = ⟨machine, []⟩ ∧ reply.elapsed = 0 ∧
          reply.answer.field? "files" = none ∧
          reply.answer.field? "error" = some (.string failure.message)
      | .ok plan =>
        let course := wholeCourse interpreter documents plan machine
        let pushed := pushes ties settings course reply.elapsed
        let last := (course.stateAt reply.elapsed).report
        (∃ before : Session, before.machine.Idle ∧ before.sent = pushed ∧
          reply.session = before.send reply.elapsed settings.notificationMethod) ∧
        reply.session.sent =
          pushed ++ [⟨reply.elapsed, settings.notificationMethod, last⟩] ∧
        (∀ push ∈ pushed, push.time < reply.elapsed ∨
          push.time = reply.elapsed ∧ ties reply.elapsed ≠ .last) ∧
        reply.elapsed = min course.elapsed settings.timeout ∧
        match ending interpreter settings documents plan machine with
        | .ok () =>
          reply.answer.field? "files" = some last.filesJson ∧
            reply.answer.field? "error" = none
        | .error failure =>
          reply.answer.field? "files" = none ∧
            reply.answer.field? "error" = some (.string failure.message) := by
  intro machine
  have idle : machine.Idle := ⟨rfl, rfl⟩
  have refusal : ∀ failure, (answer (.error failure)).field? "files" = none ∧
      (answer (.error failure)).field? "error" = some (.string failure.message) :=
    fun failure => ⟨rfl, rfl⟩
  cases outcome : plan settings documents arguments with
  | error failure =>
    have stays := run_of_refused interpreter ties outcome machine
    have dispatched := dispatch_analysis interpreter ties settings documents arguments machine stays
      (Nat.zero_le _)
    exact ⟨_, dispatched, rfl, rfl, refusal failure⟩
  | ok plan =>
    obtain ⟨elapsed, value, final⟩ := run_of_plan interpreter ties outcome machine
    have length := workCourse_elapsed interpreter settings documents plan machine
    have dispatched := dispatch_analysis interpreter ties settings documents arguments machine rfl
      (by omega)
    have pushed := workCourse_pushes interpreter ties settings documents plan machine
    have last := workCourse_final interpreter settings documents plan machine
    have freed := workCourse_idle interpreter settings documents plan idle
    refine ⟨_, dispatched, ?_⟩
    simp only [elapsed, value, final, pushed]
    refine ⟨⟨_, freed, rfl, rfl⟩, ?_, ?_, length, ?_⟩
    · rw [← last]
      rfl
    · intro push member
      obtain ⟨time, inside, rfl⟩ := List.mem_map.mp member
      exact time_of_close ties (Timer.mem_ticks.mp inside).2
    · rw [workCourse_verdict, last]
      cases ending interpreter settings documents plan machine with
      | error failure => exact refusal failure
      | ok done => exact ⟨rfl, rfl⟩

end ExampleProbes.Analysis
