import ExampleProbes.Proofs.Command.LastNotification

/-!
When commands answer. A command is waited for until its budget and the grace have passed. The
two commands that are always there cut all that they wait for at their own budgets, so that
they are never given up.
-/
namespace ExampleProbes

namespace Display
open Process
variable (interpreter : Interpreter) (settings : Settings)

theorem run_elapsed_le (documents : List Document) (arguments : List Json) (machine : Machine) :
    (run interpreter settings documents arguments machine).elapsed ≤ settings.displayTimeout := by
  unfold run
  cases DisplayArguments.of arguments with
  | error failure => exact Nat.zero_le _
  | ok asked =>
    cases found : openDocument? documents asked.uri with
    | none =>
      simp only [found]
      exact Nat.zero_le _
    | some document =>
      -- Only the evaluation takes time, and it is cut.
      simp only [found]
      rw [bind_elapsed, cut_elapsed, pure_elapsed]
      omega

end Display

namespace Registry

/-- The answer in place of a command that was given up. -/
def IsOverrun (answer : Json) : Prop :=
  ∃ name budget elapsed, answer = overrun name budget elapsed

/-- The command itself answered, and within `budget`. -/
structure Reply.OwnWithin (reply : Reply) (course : Course Session Json) (budget : Nat) :
    Prop where
  answer : reply.answer = course.value
  elapsed : reply.elapsed = course.elapsed
  inTime : reply.elapsed ≤ budget
  notOverrun : ¬ IsOverrun reply.answer

theorem append_ne_append {front other : String} (n : Nat)
    (long : n ≤ front.length ∧ n ≤ other.length)
    (apart : front.toList.take n ≠ other.toList.take n) (rest more : String) :
    front ++ rest ≠ other ++ more := by
  intro same
  have letters := congrArg (fun text => text.toList.take n) same
  simp only [String.toList_append] at letters
  rw [List.take_append_of_le_length long.1, List.take_append_of_le_length long.2] at letters
  exact apart letters

/-- Four letters tell the message of a failure from that of a command given up. -/
theorem message_ne_overrun (failure : Failure) (text : String) :
    failure.message ≠ "Command " ++ text := by
  cases failure with
  | invalidArguments fault => exact append_ne_append 4 (by decide) (by decide) _ _
  | documentNotOpen uri => exact append_ne_append 4 (by decide) (by decide) _ _
  | documentLoad uri fault =>
    show "Failed to load " ++ uri ++ ": " ++ fault.message ≠ _
    rw [String.append_assoc, String.append_assoc]
    exact append_ne_append 4 (by decide) (by decide) _ _
  | timeout budget =>
    show "Analysis timed out after " ++ toString budget ++ " ms" ≠ _
    rw [String.append_assoc]
    exact append_ne_append 4 (by decide) (by decide) _ _
  | settings fault => exact append_ne_append 4 (by decide) (by decide) _ _

theorem not_isOverrun_analysis (verdict : Except Failure Report) :
    ¬ IsOverrun (Analysis.answer verdict) := by
  rintro ⟨name, budget, elapsed, same⟩
  cases verdict with
  | ok report =>
    have keys := congrArg (Json.field? "files") same
    cases keys
  | error failure =>
    have texts := congrArg (fun answer => (answer.field? "error").bind Json.text?) same
    have message := Option.some.inj texts
    rw [String.append_assoc, String.append_assoc, String.append_assoc] at message
    exact message_ne_overrun failure _ message

theorem not_isOverrun_display (observation : Observation) : ¬ IsOverrun observation.toJson := by
  rintro ⟨name, budget, elapsed, same⟩
  have keys := congrArg (Json.field? "expression") same
  cases keys

section Standard
variable (interpreter : Interpreter) (settings : Settings) (documents : List Document)
  (arguments : List Json) (machine : Machine)

theorem analysis_inTime (ties : Ties) :
    let course :=
      (Command.analysis interpreter ties settings).execute documents arguments ⟨machine, []⟩
    course.elapsed ≤ settings.timeout ∧ ¬ IsOverrun course.value := by
  intro course
  constructor
  · have inTime :=
      Analysis.run_elapsed_le_timeout interpreter ties settings documents arguments machine
    simp only [course, Command.analysis, Process.bind_elapsed, Process.pure_elapsed]
    omega
  · simp only [course, Command.analysis, Process.bind_value, Process.pure_value]
    exact not_isOverrun_analysis _

theorem display_inTime :
    let course := (Command.display interpreter settings).execute documents arguments ⟨machine, []⟩
    course.elapsed ≤ settings.displayTimeout ∧ ¬ IsOverrun course.value := by
  intro course
  constructor
  · have inTime := Display.run_elapsed_le interpreter settings documents arguments machine
    have same : ∀ part : Course Machine Observation, (part.within Session.machine
        (fun machine session => { session with machine }) ⟨machine, []⟩).elapsed = part.elapsed :=
      fun part => Course.within_elapsed (fun _ _ => rfl) part _
    simp only [course, Command.display, Process.bind_elapsed, Process.pure_elapsed, Process.within,
      same]
    omega
  · simp only [course, Command.display, Process.bind_value, Process.pure_value]
    exact not_isOverrun_display _

end Standard

theorem replyOf_own {name : String} {budget limit : Nat} {course : Course Session Json}
    (enough : budget ≤ limit) (inTime : course.elapsed ≤ budget ∧ ¬ IsOverrun course.value) :
    (replyOf name budget limit course).OwnWithin course budget := by
  rw [replyOf_inTime (Nat.le_trans inTime.1 enough)]
  exact ⟨rfl, rfl, inTime.1, inTime.2⟩

/-- A command that would answer within a second after its budget is answered with what it says,
    and when it says it; an answer at the very end of that second still counts. At that time
    any other command is given up, and the reply says so. The two standard commands answer for
    themselves within their own budgets, however long the interpreter takes for anything. -/
theorem answered_within_grace (registry : Registry) (documents : List Document) (name : String)
    (arguments : List Json) (machine : Machine) :
    match registry.get? name with
    | none => registry.dispatch documents name arguments machine = none
    | some command =>
      let course := command.execute documents arguments ⟨machine, []⟩
      let limit := command.timeout + 1000
      ∃ reply, registry.dispatch documents name arguments machine = some reply ∧
        (course.elapsed ≤ limit → reply = ⟨course.value, course.elapsed, course.final⟩) ∧
        (limit < course.elapsed →
          reply = ⟨overrun name command.timeout limit, limit, (course.stateAt limit).release⟩) ∧
        (∀ interpreter ties settings, command = .analysis interpreter ties settings →
          reply.OwnWithin course settings.timeout) ∧
        (∀ interpreter settings, command = .display interpreter settings →
          reply.OwnWithin course settings.displayTimeout) := by
  cases found : registry.get? name with
  | none => exact dispatch_of_missing found documents arguments machine
  | some command =>
    have enough : command.timeout ≤ command.timeout + 1000 := Nat.le_add_right _ _
    refine ⟨_, dispatch_of_found found documents arguments machine, replyOf_inTime, replyOf_late,
      ?_, ?_⟩
    · rintro interpreter ties settings rfl
      exact replyOf_own enough
        (analysis_inTime interpreter settings documents arguments machine ties)
    · rintro interpreter settings rfl
      exact replyOf_own enough (display_inTime interpreter settings documents arguments machine)

example (interpreter : Interpreter) (ties : Ties) (settings : Settings) :
    (standard interpreter ties settings).get? "babylonian_analysis" =
        some (.analysis interpreter ties settings) ∧
      (standard interpreter ties settings).get? "display_expression" =
        some (.display interpreter settings) := ⟨rfl, rfl⟩

end Registry
end ExampleProbes
