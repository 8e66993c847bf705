import ExampleProbes.Command.Registry
import ExampleProbes.Proofs.Run.CourseLaws

/-!
The reply to a dispatch, by the course that its command takes: the command's own answer where
it comes before the registry stops waiting, and what stands in its place where it does not.
-/
namespace ExampleProbes.Registry

/-- The reply to a command with the budget `budget`, for which the registry waits until `limit`. -/
def replyOf (name : String) (budget limit : Nat) (course : Course Session Json) : Reply :=
  if course.elapsed ≤ limit then ⟨course.value, course.elapsed, course.final⟩
  else ⟨overrun name budget limit, limit, (course.stateAt limit).release⟩

variable {registry : Registry} {name : String} {command : Command}

theorem dispatch_of_found (found : registry.get? name = some command) (documents : List Document)
    (arguments : List Json) (machine : Machine) :
    registry.dispatch documents name arguments machine =
      some (replyOf name command.timeout (command.timeout + grace)
        (command.execute documents arguments ⟨machine, []⟩)) := by
  simp only [dispatch, found, Option.map_some, Process.cut, Course.cut_value, Course.cut_elapsed,
    Course.cut_final, replyOf, Option.some.injEq]
  split
  · rename_i inTime
    rw [Nat.min_eq_left inTime]
    rfl
  · rename_i late
    rw [Nat.min_eq_right (by omega)]
    rfl

theorem dispatch_of_missing (missing : registry.get? name = none) (documents : List Document)
    (arguments : List Json) (machine : Machine) :
    registry.dispatch documents name arguments machine = none := by
  rw [dispatch, missing, Option.map_none]

theorem replyOf_inTime {budget limit : Nat} {course : Course Session Json}
    (inTime : course.elapsed ≤ limit) :
    replyOf name budget limit course = ⟨course.value, course.elapsed, course.final⟩ :=
  if_pos inTime

theorem replyOf_late {budget limit : Nat} {course : Course Session Json}
    (late : limit < course.elapsed) :
    replyOf name budget limit course =
      ⟨overrun name budget limit, limit, (course.stateAt limit).release⟩ :=
  if_neg (Nat.not_le_of_lt late)

end ExampleProbes.Registry
