import ExampleProbes.Command.Settings
import ExampleProbes.Run.Course
import ExampleProbes.Run.Machine
/-
Partial reports of a run. A reporter goes on beside the run: its loop takes up whichever is
ready, the tick of a timer, at which the report is sent as it then stands, or the word that
it is cancelled, with which the loop ends. A tick may fall on the very time at which the run
goes on or ends; what comes first then is left open.
-/
namespace ExampleProbes

/-- A report, sent to a method at a time. -/
structure Notification where
  time : Nat
  method : String
  report : Report
  deriving DecidableEq, Repr

structure Session where
  machine : Machine := {}
  sent : List Notification := []

namespace Session

def send (time : Nat) (method : String) (session : Session) : Session :=
  { session with sent := session.sent ++ [⟨time, method, session.machine.report⟩] }

def release (session : Session) : Session :=
  { session with machine := session.machine.release }

end Session

/-- When the next tick is due, and how long after it the one that follows. -/
structure Timer where
  due : Nat
  period : Nat
  positive : 0 < period

namespace Timer

/-- The interval is at least one millisecond and no longer than the longest pause. -/
def ofSettings (settings : Settings) : Timer where
  due := settings.initialPushDelay
  period := max (Time.span settings.pushInterval) 1
  positive := by omega

def next (timer : Timer) : Timer := { timer with due := timer.due + timer.period }

end Timer

/-- When a tick is taken up that falls on the end of a wait: before the run goes on, after it
    has gone on, or then but not if the run has cancelled the reporter. -/
inductive Turn where
  | first
  | between
  | last
  deriving DecidableEq, Repr

/-- How the ties are broken, at each time. -/
abbrev Ties := Nat → Turn

inductive Phase where
  | running
  | cancelled
  | ended
  deriving DecidableEq, Repr

structure Reporter where
  method : String
  timer : Timer
  now : Nat := 0
  phase : Phase := .running

namespace Reporter

def start (settings : Settings) : Reporter where
  method := settings.notificationMethod
  timer := .ofSettings settings

def push (reporter : Reporter) (session : Session) : Session :=
  session.send reporter.now reporter.method

def cancel (reporter : Reporter) : Reporter :=
  match reporter.phase with
  | .running => { reporter with phase := .cancelled }
  | .cancelled | .ended => reporter

inductive Ready where
  | tick
  | cancellation
  deriving DecidableEq, Repr

/-- What the loop takes up now, if anything is ready. -/
def ready? (ties : Ties) (reporter : Reporter) : Option Ready :=
  let due := reporter.timer.due ≤ reporter.now
  match reporter.phase with
  | .running => if due then some .tick else none
  | .cancelled =>
    if due ∧ ties reporter.now ≠ .last then some .tick else some .cancellation
  | .ended => none

theorem due_of_ready {ties : Ties} {reporter : Reporter}
    (ready : reporter.ready? ties = some .tick) : reporter.timer.due ≤ reporter.now := by
  unfold ready? at ready
  cases phase : reporter.phase <;> simp_all

/-- The loop goes round as long as anything is ready. -/
def poll (ties : Ties) (reporter : Reporter) (session : Session) : Reporter × Session :=
  match _ : reporter.ready? ties with
  | none => (reporter, session)
  | some .cancellation => ({ reporter with phase := .ended }, session)
  | some .tick => poll ties { reporter with timer := reporter.timer.next } (reporter.push session)
termination_by reporter.now + 1 - reporter.timer.due
decreasing_by
  have due := due_of_ready ‹_›
  have positive := reporter.timer.positive
  simp only [Timer.next]
  omega

@[simp] theorem poll_now (ties : Ties) (reporter : Reporter) (session : Session) :
    (reporter.poll ties session).1.now = reporter.now := by
  fun_induction poll with
  | case1 => rfl
  | case2 => rfl
  | case3 reporter session ready ih => exact ih

/-- The tick that a running loop takes up on the way to `stop`. -/
def upcoming? (ties : Ties) (stop : Nat) (reporter : Reporter) : Option Nat :=
  let due := reporter.timer.due
  if reporter.phase = .running ∧ reporter.now < due ∧
      (due < stop ∨ due = stop ∧ ties stop = .first) then some due
  else none

theorem bounds_of_upcoming {ties : Ties} {stop time : Nat} {reporter : Reporter}
    (upcoming : reporter.upcoming? ties stop = some time) : reporter.now < time ∧ time ≤ stop := by
  simp only [upcoming?, Option.ite_none_right_eq_some, Option.some.injEq] at upcoming
  omega

/-- What the reporter does while the run beside it waits until `stop`. -/
def wait (ties : Ties) (stop : Nat) (reporter : Reporter) (session : Session) :
    Course Session Reporter :=
  let polled := reporter.poll ties session
  match _ : polled.1.upcoming? ties stop with
  | some time =>
    .pause (time - reporter.now) polled.2 (wait ties stop { polled.1 with now := time })
  | none =>
    .pause (stop - reporter.now) polled.2 fun now => .done now { polled.1 with now := stop }
termination_by stop - reporter.now
decreasing_by
  have bounds := bounds_of_upcoming ‹_›
  rw [poll_now] at bounds
  omega

/-- Cancels the loop, lets it end and sends the report once more. -/
def finish (ties : Ties) (reporter : Reporter) (session : Session) : Reporter × Session :=
  let (joined, session) := reporter.cancel.poll ties session
  (joined, joined.push session)

end Reporter

/-- A run beside a reporter. While the run waits, the reporter may do as it likes with the
    session; what comes next in the run starts from the machine that is then there. -/
def Course.beside {α : Type} (ties : Ties) :
    Course Machine α → Reporter → List Notification → Course Session (Reporter × α)
  | .done machine value, reporter, sent => .done ⟨machine, sent⟩ (reporter, value)
  | .wait delay _ machine rest, reporter, sent =>
    (reporter.wait ties (reporter.now + delay) ⟨machine, sent⟩).bind fun reporter session =>
      (rest session.machine).beside ties reporter session.sent

end ExampleProbes
