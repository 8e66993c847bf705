import ExampleProbes.Proofs.Command.LastNotification

/-!
The reply to an analysis as a function of the course of its work. The course is the same for
all settings; they decide when it is looked at and when it is given up, and so which of its
states are sent, which one is left and what is answered.
-/
namespace ExampleProbes.Analysis
variable {α : Type}

/-- What a course leaves that is given up when `budget` has passed. -/
def leftBy (budget : Nat) (course : Course Machine α) : Machine :=
  if course.elapsed ≤ budget then course.final else (course.stateAt budget).release

theorem leftBy_report (budget : Nat) (course : Course Machine α) :
    (leftBy budget course).report = (course.stateAt budget).report := by
  unfold leftBy
  split
  · rename_i ended
    rw [course.stateAt_of_elapsed_le budget ended]
  · rw [Machine.release_eq]

/-- What is sent until a later time goes on from what is sent until an earlier one. -/
theorem pushes_append (ties : Ties) (settings : Settings) (course : Course Machine α)
    {first last : Nat} (ordered : first ≤ last) :
    pushes ties settings course last = pushes ties settings course first ++
      (((Timer.ofSettings settings).past (ties.close first)).ticks (ties.close last)).map fun time =>
        ⟨time, settings.notificationMethod, (course.stateAt (ties.sight time)).report⟩ := by
  unfold pushes
  rw [← List.map_append, Timer.ticks_append _ (ties.close_mono ordered)]

section Reply
variable (interpreter : Interpreter) (ties : Ties) (settings : Settings) (documents : List Document)
  (plan : Plan) (machine : Machine)

def replyTo : Registry.Reply :=
  let course := wholeCourse interpreter documents plan machine
  let stop := min course.elapsed settings.timeout
  let left := leftBy settings.timeout course
  { answer := answer ((ending interpreter settings documents plan machine).map fun _ => left.report)
    elapsed := stop
    session := (Session.mk left (pushes ties settings course stop)).send stop
      settings.notificationMethod }

variable {arguments : List Json}

theorem dispatch_of_plan {plan : Plan}
    (accepted : Analysis.plan settings documents arguments = .ok plan) :
    (Registry.standard interpreter ties settings).dispatch documents "babylonian_analysis" arguments
      machine = some (replyTo interpreter ties settings documents plan machine) := by
  have inTime := run_elapsed_le interpreter ties settings documents arguments machine
  obtain ⟨elapsed, value, final⟩ := run_of_plan interpreter ties accepted machine
  have left : (workCourse interpreter settings documents plan machine).final =
      leftBy settings.timeout (wholeCourse interpreter documents plan machine) :=
    Course.cut_final Machine.release settings.timeout _
  rw [dispatch_analysis interpreter ties settings documents arguments machine rfl inTime, elapsed,
    value, final, workCourse_pushes, workCourse_verdict, workCourse_elapsed, left]
  rfl

theorem dispatch_of_refused {failure : Failure}
    (refused : Analysis.plan settings documents arguments = .error failure) :
    (Registry.standard interpreter ties settings).dispatch documents "babylonian_analysis" arguments
      machine = some ⟨answer (.error failure), 0, ⟨machine, []⟩⟩ :=
  dispatch_analysis interpreter ties settings documents arguments machine
    (run_of_refused interpreter ties refused machine) (Nat.zero_le _)

theorem replyTo_sent :
    let course := wholeCourse interpreter documents plan machine
    let stop := min course.elapsed settings.timeout
    (replyTo interpreter ties settings documents plan machine).session.sent =
      pushes ties settings course stop ++
        [⟨stop, settings.notificationMethod, (course.stateAt settings.timeout).report⟩] := by
  intro course stop
  rw [← leftBy_report]
  rfl

end Reply
end ExampleProbes.Analysis
