import ExampleProbes.Guest.Script
import ExampleProbes.Proofs.Command.KeptReports
import ExampleProbes.Proofs.Command.Replies
import ExampleProbes.Proofs.Report.Extension

/-!
What more time gives. Every step of the work extends the report, so that the report at a
later time extends the one at an earlier time. A run that is given up sends the report as it
stood in a longer run at that moment; a run that is not given up is the same for any longer
budget.
-/
namespace ExampleProbes

theorem Report.Fired.extended {name : String} {firing : Firing} {before after : Report}
    (fired : Fired name firing before after) : before.Extended after := by
  obtain ⟨change, rfl⟩ := fired.change
  exact Change.applied_extended before change

namespace Analysis
variable (interpreter : Interpreter)

theorem work_extends (documents : List Document) (examples : List Example) :
    Process.Advances (fun a b : Machine => a.report.Extended b.report)
      (work interpreter documents examples) :=
  work_reports_advance interpreter ⟨.refl, .trans⟩ (fun _ _ _ _ fired => fired.extended)
    (fun report e made => Change.applied_extended report (.exampleObservation e made))
    documents examples

section Replies
variable (ties : Ties) (settings : Settings) (documents : List Document) (plan : Plan)
  (machine : Machine)

theorem wholeCourse_extends {short long : Nat} (ordered : short ≤ long) :
    let course := wholeCourse interpreter documents plan machine
    (course.stateAt short).report.Extended (course.stateAt long).report := by
  have forward : Course.Forward Report.Extended := ⟨.refl, .trans⟩
  exact (work_extends interpreter documents plan.examples
    { machine with report := plan.report }).stateAt (forward.comap Machine.report) ordered

/-- A run that is over within a budget is the same under a longer one. -/
theorem replyTo_of_completed {short long : Nat} (ordered : short ≤ long)
    (completed : (wholeCourse interpreter documents plan machine).elapsed ≤ short) :
    replyTo interpreter ties { settings with timeout := long } documents plan machine =
      replyTo interpreter ties { settings with timeout := short } documents plan machine := by
  have both := Nat.le_trans completed ordered
  simp only [replyTo, leftBy, ending, completed, both, ↓reduceIte, Nat.min_eq_left]
  rfl

/-- A run that is given up leaves the state of that time, without hooks. -/
theorem replyTo_of_exceeded
    (exceeded : settings.timeout < (wholeCourse interpreter documents plan machine).elapsed) :
    let reply := replyTo interpreter ties settings documents plan machine
    reply.session.machine =
        ((wholeCourse interpreter documents plan machine).stateAt settings.timeout).release ∧
      reply.answer.field? "error" = some (.string (Failure.timeout settings.timeout).message) := by
  have late : ¬ (wholeCourse interpreter documents plan machine).elapsed ≤ settings.timeout := by
    omega
  constructor
  · exact if_neg late
  · simp only [replyTo, ending, late, ↓reduceIte]
    rfl

end Replies

/-- Of two runs under different budgets that are else the same, the one with the longer budget
    ends with a report that extends the other's. Both reports are those of the one course of
    the work, at the time allowed; giving the work up adds nothing to them. What was sent
    before the shorter run ended is sent by both, and a run that ends within the shorter
    budget is the same under the longer. -/
theorem longer_budget_extends (ties : Ties) (settings : Settings) {short long : Nat}
    (ordered : short ≤ long) (documents : List Document) (arguments : List Json)
    (report : Report) (attached : Nat) (calls : List Call) :
    let machine : Machine := { report, attached, calls }
    let dispatched (budget : Nat) :=
      (Registry.standard interpreter ties { settings with timeout := budget }).dispatch documents
        "babylonian_analysis" arguments machine
    ∃ early late, dispatched short = some early ∧ dispatched long = some late ∧
      match plan settings documents arguments with
      | .error _ => late = early ∧ early.session.sent = []
      | .ok plan =>
        let course := wholeCourse interpreter documents plan machine
        (∃ pushed more first last, early.session.sent = pushed ++ [first] ∧
          late.session.sent = pushed ++ more ++ [last] ∧
          first.report = (course.stateAt short).report ∧
          last.report = (course.stateAt long).report ∧
          first.report.Extended last.report) ∧
        (course.elapsed ≤ short → late = early) ∧
        (short < course.elapsed → early.session.machine = (course.stateAt short).release ∧
          early.answer.field? "error" = some (.string (Failure.timeout short).message)) := by
  intro machine dispatched
  have planned : ∀ budget, Analysis.plan { settings with timeout := budget } documents arguments =
      Analysis.plan settings documents arguments := fun _ => rfl
  cases outcome : Analysis.plan settings documents arguments with
  | error failure =>
    have refused : ∀ budget, dispatched budget =
        some ⟨answer (.error failure), 0, ⟨machine, []⟩⟩ := fun budget =>
      dispatch_of_refused interpreter ties _ documents machine ((planned budget).trans outcome)
    exact ⟨_, _, refused short, refused long, rfl, rfl⟩
  | ok plan =>
    have replied : ∀ budget, dispatched budget = some
        (replyTo interpreter ties { settings with timeout := budget } documents plan machine) :=
      fun budget =>
        dispatch_of_plan interpreter ties _ documents machine ((planned budget).trans outcome)
    refine ⟨_, _, replied short, replied long, ?_, ?_, ?_⟩
    · -- Both stop on the one course, and share what is sent before the earlier stop.
      let course := wholeCourse interpreter documents plan machine
      have stops : min course.elapsed short ≤ min course.elapsed long := by omega
      rw [replyTo_sent, replyTo_sent, pushes_append _ _ _ stops]
      exact ⟨_, _, _, _, rfl, rfl, rfl, rfl,
        wholeCourse_extends interpreter documents plan machine ordered⟩
    · exact replyTo_of_completed interpreter ties settings documents plan machine ordered
    · exact replyTo_of_exceeded interpreter ties { settings with timeout := short } documents
        plan machine

section SecondEvent

def probedTwice : Document := ⟨"a", "toy", "<Example :name=\"A\" />\nf()\n<Probe />\nx = 1"⟩

/-- The statement on line 4 ends three milliseconds after the call, and again after three more. -/
def endsTwice : Script where
  globals := [("toy", [("f", .ok { display := .ok "f", has := (· == .executable) })])]
  invocations := [("f", [⟨List.replicate 2
    ⟨3, ⟨"a", 4⟩, ⟨"a", 4, "x = 1", .ok (.ofText "1"), Script.scope []⟩⟩, 0, .ok (.ofText "1")⟩])]

theorem second_event_within_longer_budget :
    let dispatched (budget : Nat) :=
      (Registry.standard endsTwice.interpreter (fun _ => .last) { timeout := budget }).dispatch
        [probedTwice] "babylonian_analysis" [.string "a"] {}
    4 ≤ 9 ∧ ∃ early late, dispatched 4 = some early ∧ dispatched 9 = some late ∧
      ∃ first last, early.session.sent.getLast? = some first ∧
        late.session.sent.getLast? = some last ∧ first.report.Extended last.report ∧
        (first.report.observed (.atLine "a" 4 0) "A").length = 1 ∧
        (last.report.observed (.atLine "a" 4 0) "A").length = 2 := by
  intro dispatched
  have ordered : 4 ≤ 9 := by decide
  have accepted : plan {} [probedTwice] [.string "a"] =
      .ok (planFor [probedTwice] probedTwice none) := by decide +kernel
  obtain ⟨early, late, short, long, related⟩ := longer_budget_extends endsTwice.interpreter
    (fun _ => .last) {}
    ordered [probedTwice] [.string "a"] {} 0 []
  rw [accepted] at related
  obtain ⟨⟨pushed, more, first, last, before, after, one, two, extended⟩, _⟩ := related
  refine ⟨ordered, early, late, short, long, first, last, ?_, ?_, extended, ?_, ?_⟩
  · rw [before, List.getLast?_concat]
  · rw [after, List.getLast?_concat]
  · rw [one]
    decide +kernel
  · rw [two]
    decide +kernel

end SecondEvent

end Analysis
end ExampleProbes
