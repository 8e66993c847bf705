import ExampleProbes.Guest.Script
import ExampleProbes.Proofs.Command.Replies

/-!
Partial reports are only looked at. The reporter may touch the machine whenever the work
waits, but sending leaves it alone. So when partial reports are sent, and under which
method, is the one thing in which two runs differ whose settings differ in nothing else: at
every time both stand in the same state and have made the same calls, and both end with the
same report and the same answer.
-/
namespace ExampleProbes.Analysis
variable (interpreter : Interpreter)

theorem plan_of_valid {settings other : Settings} (valid : settings.validate = .ok ())
    (otherValid : other.validate = .ok ()) (documents : List Document) (arguments : List Json) :
    plan other documents arguments = plan settings documents arguments := by
  simp only [plan, Settings.valid, valid, otherValid]

/-- At every time the machine is where the work has it, whatever the reporter beside it does. -/
theorem run_stateAt (ties : Ties) {settings : Settings} {documents : List Document}
    {arguments : List Json} {plan : Plan}
    (accepted : Analysis.plan settings documents arguments = .ok plan) (machine : Machine)
    (time : Nat) :
    ((run interpreter ties settings documents arguments ⟨machine, []⟩).stateAt time).machine =
      (workCourse interpreter settings documents plan machine).stateAt time := by
  let course := workCourse interpreter settings documents plan machine
  have left := course.beside_machine ties (.start settings) []
  simp only [run, accepted]
  rw [Course.bind_stateAt, Course.beside_elapsed]
  split
  · rename_i ended
    show (Reporter.finish ties _ _).2.machine = _
    rw [Reporter.finish_machine, left, Course.stateAt_of_elapsed_le _ _ ended]
  · exact course.beside_stateAt ties (.start settings) [] time

section Replies
variable (ties : Ties) (settings : Settings) (documents : List Document) (plan : Plan)
  (machine : Machine)

/-- Every report that is sent is the one of the work at that time, unless the tick is taken up
    just before the work goes on. -/
theorem replyTo_shows :
    ∀ push ∈ (replyTo interpreter ties settings documents plan machine).session.sent,
      ties push.time ≠ .first → push.report =
        ((wholeCourse interpreter documents plan machine).stateAt push.time).report := by
  rw [replyTo_sent]
  intro push member tie
  rcases List.mem_append.mp member with before | last
  · obtain ⟨time, _, rfl⟩ := List.mem_map.mp before
    have seen : ties.sight time = time := if_neg tie
    rw [seen]
  · rw [List.mem_singleton.mp last, Course.stateAt_min]

/-- What stands in a reply apart from the pushes depends on the budget alone. -/
theorem replyTo_congr (ties' : Ties) {settings other : Settings}
    (budget : other.timeout = settings.timeout) :
    let reply := replyTo interpreter ties settings documents plan machine
    let reply' := replyTo interpreter ties' other documents plan machine
    reply'.session.machine = reply.session.machine ∧ reply'.answer = reply.answer ∧
      reply'.elapsed = reply.elapsed := by
  simp only [replyTo, Session.send, ending, budget, and_self]

end Replies

/-- A push as its content, whatever its method is. -/
def payload (push : Notification) : Nat × Report := (push.time, push.report)

/-- Two analyses with the same budget stand in the same state at every time, however they
    send and however their ticks meet the work. So they make the same calls, answer alike and
    send the same report last. Where both send one at the same time, it is the same, unless
    one of the two is sent just before the work goes on at that time. -/
theorem pushing_changes_nothing (ties ties' : Ties) {settings other : Settings}
    (valid : settings.validate = .ok ()) (otherValid : other.validate = .ok ())
    (budget : other.timeout = settings.timeout) (documents : List Document)
    (arguments : List Json) (report : Report) (attached : Nat) (calls : List Call) :
    let machine : Machine := { report, attached, calls }
    let runs (t : Ties) (s : Settings) := run interpreter t s documents arguments ⟨machine, []⟩
    let dispatched (t : Ties) (s : Settings) := (Registry.standard interpreter t s).dispatch
      documents "babylonian_analysis" arguments machine
    (∀ time, ((runs ties' other).stateAt time).machine =
      ((runs ties settings).stateAt time).machine) ∧
    ∃ reply reply', dispatched ties settings = some reply ∧ dispatched ties' other = some reply' ∧
      reply'.session.machine = reply.session.machine ∧ reply'.answer = reply.answer ∧
      reply'.elapsed = reply.elapsed ∧
      reply'.session.sent.getLast?.map payload = reply.session.sent.getLast?.map payload ∧
      ∀ push ∈ reply.session.sent, ∀ push' ∈ reply'.session.sent, push'.time = push.time →
        ties push.time ≠ .first → ties' push.time ≠ .first → push'.report = push.report := by
  intro machine runs dispatched
  have planned := plan_of_valid valid otherValid documents arguments
  cases outcome : plan settings documents arguments with
  | error failure =>
    have refused := planned.trans outcome
    refine ⟨fun time => ?_, _, _,
      dispatch_of_refused interpreter ties settings documents machine outcome,
      dispatch_of_refused interpreter ties' other documents machine refused, rfl, rfl, rfl, rfl, ?_⟩
    · simp only [runs, run_of_refused interpreter _ outcome, run_of_refused interpreter _ refused]
    · exact fun push member => absurd member List.not_mem_nil
  | ok plan =>
    have accepted := planned.trans outcome
    refine ⟨fun time => ?_, _, _,
      dispatch_of_plan interpreter ties settings documents machine outcome,
      dispatch_of_plan interpreter ties' other documents machine accepted, ?_⟩
    · simp only [runs, run_stateAt interpreter _ outcome, run_stateAt interpreter _ accepted,
        workCourse_eq, budget]
    · obtain ⟨state, answers, elapsed⟩ :=
        replyTo_congr interpreter ties documents plan machine ties' budget
      refine ⟨state, answers, elapsed, ?_, fun push member push' member' same tie tie' => ?_⟩
      · simp only [replyTo_sent, List.getLast?_concat, Option.map_some, payload, budget]
      · have shows' := replyTo_shows interpreter ties' other documents plan machine push' member'
        rw [replyTo_shows interpreter ties settings documents plan machine push member tie,
          shows' (same ▸ tie'), same]

section EarlyAndLate

def probedOnce : Document :=
  ⟨"a", "toy", "<Example :name=\"A\" x=\"1\" />\nf(x)\n<Probe />\ny = x"⟩

/-- The argument takes three milliseconds, and so does the statement on line 4. -/
def unhurried : Script where
  globals := [("toy", [("f", .ok { display := .ok "f", has := (· == .executable) })])]
  sources := [("1", ⟨3, .ok (.ofText "1")⟩)]
  invocations := [("f", [⟨[⟨3, ⟨"a", 4⟩, ⟨"a", 4, "y = x", .ok (.ofText "1"), Script.scope []⟩⟩], 0,
    .ok (.ofText "1")⟩])]

/-- The one run sends three partial reports on its way, the other none. -/
theorem early_pushes_change_nothing :
    let early : Settings := { initialPushDelay := 1, pushInterval := 2 }
    let late : Settings := { notificationMethod := "progress" }
    let dispatched (turn : Turn) (s : Settings) :=
      (Registry.standard unhurried.interpreter (fun _ => turn) s).dispatch [probedOnce]
        "babylonian_analysis" [.string "a"] {}
    early.validate = .ok () ∧ late.validate = .ok () ∧ late.timeout = early.timeout ∧
    (dispatched .first early).map (·.session.sent.length) = some 4 ∧
    (dispatched .last late).map (·.session.sent.length) = some 1 ∧
    ∃ reply reply', dispatched .first early = some reply ∧ dispatched .last late = some reply' ∧
      reply'.session.machine = reply.session.machine ∧ reply'.answer = reply.answer ∧
      reply'.session.sent.getLast?.map payload = reply.session.sent.getLast?.map payload := by
  intro early late dispatched
  have valid : early.validate = .ok () := by decide
  have otherValid : late.validate = .ok () := by decide
  obtain ⟨_, reply, reply', first, second, state, answers, _, last, _⟩ :=
    pushing_changes_nothing unhurried.interpreter (fun _ => .first) (fun _ => .last) valid
      otherValid rfl [probedOnce] [.string "a"] {} 0 []
  exact ⟨valid, otherValid, rfl, by decide +kernel, by decide +kernel, reply, reply', first, second,
    state, answers, last⟩

end EarlyAndLate

end ExampleProbes.Analysis
