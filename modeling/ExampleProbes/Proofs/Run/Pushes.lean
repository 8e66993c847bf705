import ExampleProbes.Proofs.Run.CourseLaws
import ExampleProbes.Proofs.Run.Ticks

/-!
What a reporter sends beside a run. Sending leaves the machine alone, so that whatever the
reporter does the run takes the course it takes without it. What is sent is told by the
ticks of the timer that come before a bound; each of them finds the report as the run has it
at that time.
-/
namespace ExampleProbes

/-- What the loop is after it has taken up all that is ready. -/
def Phase.settled : Phase → Phase
  | .running => .running
  | .cancelled | .ended => .ended

namespace Reporter
variable {ties : Ties} {reporter : Reporter} {session : Session} {stop : Nat}

/-- The reporter sends the report at these times. -/
def pushAt (times : List Nat) (reporter : Reporter) (session : Session) : Session :=
  { session with sent := session.sent ++ times.map fun time =>
      ⟨time, reporter.method, session.machine.report⟩ }

@[simp] theorem pushAt_nil (reporter : Reporter) (session : Session) :
    reporter.pushAt [] session = session := by simp [pushAt]

theorem push_machine (reporter : Reporter) (session : Session) :
    (reporter.push session).machine = session.machine := rfl

/-- Ticks before this bound are ready now. -/
def bound (ties : Ties) (reporter : Reporter) : Nat :=
  match reporter.phase with
  | .running => reporter.now + 1
  | .cancelled => ties.close reporter.now
  | .ended => reporter.now

theorem bound_le (ties : Ties) (reporter : Reporter) : reporter.bound ties ≤ reporter.now + 1 := by
  unfold bound Ties.close
  split
  · omega
  · split <;> omega
  · omega

section Poll
variable (early : reporter.now ≤ reporter.timer.due)
include early

theorem bound_le_due_of_idle (idle : reporter.ready? ties = none) :
    reporter.bound ties ≤ reporter.timer.due ∧ reporter.phase.settled = reporter.phase := by
  unfold ready? at idle
  unfold bound
  cases phase : reporter.phase with
  | running =>
    simp only [phase, ite_eq_right_iff, reduceCtorEq, imp_false, Nat.not_le] at idle
    exact ⟨idle, rfl⟩
  | cancelled =>
    simp only [phase] at idle
    split at idle <;> cases idle
  | ended => exact ⟨early, rfl⟩

theorem bound_le_due_of_cancellation (ends : reporter.ready? ties = some .cancellation) :
    reporter.bound ties ≤ reporter.timer.due ∧ reporter.phase.settled = .ended := by
  unfold ready? at ends
  unfold bound Ties.close
  cases phase : reporter.phase with
  | running =>
    simp only [phase] at ends
    split at ends <;> cases ends
  | cancelled =>
    simp only [phase] at ends
    split at ends
    · cases ends
    · rename_i quiet
      refine ⟨?_, rfl⟩
      by_cases tie : ties reporter.now = .last
      · simpa only [tie, ↓reduceIte] using early
      · simp only [tie, ↓reduceIte]
        exact Nat.lt_of_not_le fun due => quiet ⟨due, tie⟩
  | ended => simp [phase] at ends

theorem due_lt_bound_of_tick (ticks : reporter.ready? ties = some .tick) :
    reporter.timer.due = reporter.now ∧ reporter.now < reporter.bound ties := by
  have due := due_of_ready ticks
  refine ⟨Nat.le_antisymm due early, ?_⟩
  unfold ready? at ticks
  unfold bound Ties.close
  cases phase : reporter.phase with
  | running => exact Nat.lt_succ_self _
  | cancelled =>
    simp only [phase, due, true_and] at ticks
    split at ticks
    · rename_i tie
      simp [tie]
    · cases ticks
  | ended => simp [phase] at ticks

/-- The loop sends the ticks that are ready, and ends if it is cancelled. -/
theorem poll_eq : reporter.poll ties session =
    ({ reporter with
        timer := reporter.timer.past (reporter.bound ties)
        phase := reporter.phase.settled },
      reporter.pushAt (reporter.timer.ticks (reporter.bound ties)) session) := by
  fun_induction poll ties reporter session with
  | case1 reporter session idle =>
    obtain ⟨later, stays⟩ := bound_le_due_of_idle early idle
    simp [Timer.past_of_le later, Timer.ticks_of_le later, stays]
  | case2 reporter session ends =>
    obtain ⟨later, ended⟩ := bound_le_due_of_cancellation early ends
    simp [Timer.past_of_le later, Timer.ticks_of_le later, ended]
  | case3 reporter session ticks ih =>
    obtain ⟨due, inside⟩ := due_lt_bound_of_tick early ticks
    obtain ⟨sent, past⟩ := Timer.ticks_of_lt (due ▸ inside)
    have later : reporter.now ≤ reporter.timer.next.due := by
      simp only [Timer.next]
      omega
    rw [ih later, sent, past, due]
    simp [pushAt, push, Session.send, bound]

end Poll

section Machine

theorem poll_machine (ties : Ties) (reporter : Reporter) (session : Session) :
    (reporter.poll ties session).2.machine = session.machine := by
  fun_induction poll ties reporter session with
  | case1 => rfl
  | case2 => rfl
  | case3 reporter session ticks ih => rw [ih, push_machine]

theorem wait_elapsed (ahead : reporter.now ≤ stop) :
    (reporter.wait ties stop session).elapsed = stop - reporter.now := by
  fun_induction wait ties stop reporter session with
  | case1 reporter session polled time upcoming ih =>
    have bounds := bounds_of_upcoming upcoming
    rw [poll_now] at bounds
    rw [Course.pause_elapsed, ih _ bounds.2]
    show (time - reporter.now) + (stop - time) = stop - reporter.now
    omega
  | case2 reporter session polled none => rw [Course.pause_elapsed]; rfl

theorem wait_final_machine : (reporter.wait ties stop session).final.machine = session.machine := by
  fun_induction wait ties stop reporter session with
  | case1 reporter session polled time upcoming ih =>
    rw [Course.pause_final, ih]
    exact poll_machine ties reporter session
  | case2 reporter session polled none =>
    rw [Course.pause_final]
    exact poll_machine ties reporter session

theorem wait_stateAt_machine (time : Nat) :
    ((reporter.wait ties stop session).stateAt time).machine = session.machine := by
  fun_induction wait ties stop reporter session generalizing time with
  | case1 reporter session polled due upcoming ih =>
    rw [Course.pause_stateAt]
    split
    · rw [ih]
      exact poll_machine ties reporter session
    · exact poll_machine ties reporter session
  | case2 reporter session polled none =>
    rw [Course.pause_stateAt]
    split <;> exact poll_machine ties reporter session

theorem finish_machine (ties : Ties) (reporter : Reporter) (session : Session) :
    (reporter.finish ties session).2.machine = session.machine :=
  poll_machine ties reporter.cancel session

end Machine

theorem poll_running (running : reporter.phase = .running)
    (early : reporter.now ≤ reporter.timer.due) : reporter.poll ties session =
      ({ reporter with timer := reporter.timer.past (reporter.now + 1) },
        reporter.pushAt (reporter.timer.ticks (reporter.now + 1)) session) := by
  have bound : reporter.bound ties = reporter.now + 1 := by simp only [Reporter.bound, running]
  have stays : reporter.phase.settled = reporter.phase := by rw [running]; rfl
  rw [poll_eq early, bound, stays]

theorem poll_upcoming (running : reporter.phase = .running)
    (early : reporter.now ≤ reporter.timer.due) :
    let later := reporter.timer.past (reporter.now + 1)
    (reporter.poll ties session).1.upcoming? ties stop =
      if later.due < ties.bound stop then some later.due else none := by
  intro later
  have ahead : reporter.now < later.due := reporter.timer.le_past_due (reporter.now + 1)
  have reached : (later.due < stop ∨ later.due = stop ∧ ties stop = .first) ↔
      later.due < ties.bound stop := by
    unfold Ties.bound
    by_cases tie : ties stop = .first
    · simp only [tie, and_true, ↓reduceIte]
      omega
    · simp [tie]
  rw [poll_running running early]
  have whole : (reporter.phase = .running ∧ reporter.now < later.due ∧
      (later.due < stop ∨ later.due = stop ∧ ties stop = .first)) ↔
        later.due < ties.bound stop := by simp only [running, ahead, reached, true_and]
  simp only [upcoming?, ← whole]
  rfl

/-- Beside a run that waits until `stop` the loop sends the ticks before the bound there. -/
theorem wait_running (session : Session) (running : reporter.phase = .running)
    (early : reporter.now ≤ reporter.timer.due) (inside : reporter.now < ties.bound stop) :
    (reporter.wait ties stop session).value =
        { reporter with now := stop, timer := reporter.timer.past (ties.bound stop) } ∧
      (reporter.wait ties stop session).final =
        reporter.pushAt (reporter.timer.ticks (ties.bound stop)) session := by
  -- The ticks on the way are those that are ready at once and those after them.
  fun_induction wait ties stop reporter session with
  | case1 reporter session polled time upcoming ih =>
    have polls : polled = _ := poll_running running early
    rw [poll_upcoming running early] at upcoming
    obtain ⟨next, due⟩ := Option.ite_none_right_eq_some.mp upcoming
    obtain rfl := Option.some.inj due
    simp only [polls] at ih ⊢
    obtain ⟨value, final⟩ := ih polled.2 running (Nat.le_refl _) next
    rw [Course.pause_value, Course.pause_final]
    simp only [polls] at value final
    rw [value, final, ← reporter.timer.ticks_append (Nat.succ_le_of_lt inside),
      ← reporter.timer.past_past (Nat.succ_le_of_lt inside)]
    exact ⟨rfl, by simp [pushAt]⟩
  | case2 reporter session polled none =>
    have polls : polled = _ := poll_running running early
    rw [poll_upcoming running early] at none
    have late := fun next => Option.some_ne_none _ ((if_pos next).symm.trans none)
    rw [Course.pause_value, Course.pause_final,
      ← reporter.timer.ticks_append (Nat.succ_le_of_lt inside),
      ← reporter.timer.past_past (Nat.succ_le_of_lt inside),
      Timer.ticks_of_le (Nat.le_of_not_lt late), Timer.past_of_le (Nat.le_of_not_lt late), polls,
      List.append_nil]
    exact ⟨rfl, rfl⟩

/-- A reporter that is finished sends the ticks before the bound, and once more. -/
theorem finish_running (ties : Ties) (session : Session) (running : reporter.phase = .running)
    (early : reporter.now ≤ reporter.timer.due) :
    (reporter.finish ties session).1.phase = .ended ∧
      (reporter.finish ties session).2.sent = session.sent ++
        (reporter.timer.ticks (ties.close reporter.now)).map
          (⟨·, reporter.method, session.machine.report⟩) ++
        [⟨reporter.now, reporter.method, session.machine.report⟩] := by
  have cancelled : reporter.cancel = { reporter with phase := .cancelled } := by
    simp only [cancel, running]
  have polls : ({ reporter with phase := .cancelled } : Reporter).poll ties session = _ :=
    poll_eq early
  simp only [finish, cancelled, polls]
  exact ⟨rfl, rfl⟩

/-- The reporter has nothing to send any more. -/
def Quiet (reporter : Reporter) : Prop :=
  reporter.phase = .ended ∨ reporter.phase = .cancelled ∧ reporter.now < reporter.timer.due

theorem quiet_cancel (ahead : reporter.now < reporter.timer.due) : reporter.cancel.Quiet := by
  unfold cancel Quiet
  cases phase : reporter.phase with
  | running => exact .inr ⟨rfl, ahead⟩
  | cancelled => exact .inr ⟨phase, ahead⟩
  | ended => exact .inl phase

theorem poll_quiet (quiet : reporter.Quiet) :
    reporter.poll ties session = ({ reporter with phase := .ended }, session) := by
  rcases quiet with ended | ⟨cancelled, ahead⟩
  · have idle : reporter.ready? ties = none := by simp only [ready?, ended]
    unfold poll
    split
    · rw [← ended]
    · simp_all
    · simp_all
  · have later : reporter.bound ties ≤ reporter.timer.due :=
      Nat.le_trans (bound_le ties reporter) ahead
    have settles : reporter.phase.settled = .ended := by rw [cancelled]; rfl
    rw [poll_eq (Nat.le_of_lt ahead), Timer.past_of_le later, Timer.ticks_of_le later, pushAt_nil,
      settles]

theorem wait_quiet (session : Session) (quiet : reporter.Quiet) :
    (reporter.wait ties stop session).value.Quiet ∧
      (reporter.wait ties stop session).final = session := by
  fun_induction wait ties stop reporter session with
  | case1 reporter session polled time upcoming ih =>
    have polls : polled = _ := poll_quiet quiet
    rw [polls] at upcoming
    simp [upcoming?] at upcoming
  | case2 reporter session polled none =>
    have polls : polled = _ := poll_quiet quiet
    rw [Course.pause_value, Course.pause_final, polls]
    exact ⟨.inl rfl, rfl⟩

section Keeps
variable {kept : Session → Prop}
  (pushed : ∀ reporter session, kept session → kept (push reporter session))
include pushed

/-- What sending the report leaves true, the loop leaves true. -/
theorem poll_keeps (held : kept session) : kept (reporter.poll ties session).2 := by
  fun_induction poll ties reporter session with
  | case1 => exact held
  | case2 => exact held
  | case3 reporter session ticks ih => exact ih (pushed reporter session held)

theorem wait_keeps (ties : Ties) (stop : Nat) (reporter : Reporter) (held : kept session) :
    (reporter.wait ties stop session).Keeps kept fun _ => kept := by
  fun_induction wait ties stop reporter session with
  | case1 reporter session polled time upcoming ih =>
    have after : kept polled.2 := poll_keeps pushed held
    exact .pause after (ih polled.2 after)
  | case2 reporter session polled none =>
    have after : kept polled.2 := poll_keeps pushed held
    exact .pause after after

theorem finish_keeps (held : kept session) : kept (reporter.finish ties session).2 :=
  pushed _ _ (poll_keeps pushed held)

end Keeps

end Reporter

namespace Course
variable {α : Type} (ties : Ties)

/-- What is sent at a time beside the course, which began at `start`. -/
def glimpse (method : String) (start : Nat) (course : Course Machine α) (time : Nat) :
    Notification :=
  ⟨time, method, (course.stateAt (ties.sight time - start)).report⟩

section Undisturbed
variable (course : Course Machine α) (reporter : Reporter) (sent : List Notification)

theorem beside_value : (course.beside ties reporter sent).value.2 = course.value := by
  induction course generalizing reporter sent with
  | done machine value => rfl
  | wait delay positive machine rest ih =>
    rw [beside, bind_value, ih, Reporter.wait_final_machine]
    rfl

theorem beside_machine : (course.beside ties reporter sent).final.machine = course.final := by
  induction course generalizing reporter sent with
  | done machine value => rfl
  | wait delay positive machine rest ih =>
    rw [beside, bind_final, ih, Reporter.wait_final_machine]
    rfl

theorem beside_elapsed : (course.beside ties reporter sent).elapsed = course.elapsed := by
  induction course generalizing reporter sent with
  | done machine value => rfl
  | wait delay positive machine rest ih =>
    rw [beside, bind_elapsed, ih, Reporter.wait_final_machine,
      Reporter.wait_elapsed (Nat.le_add_right _ _), Nat.add_sub_cancel_left]
    rfl

/-- Whatever is sent on the way, at every time the machine is where the run has it. -/
theorem beside_stateAt (time : Nat) :
    ((course.beside ties reporter sent).stateAt time).machine = course.stateAt time := by
  induction course generalizing reporter sent time with
  | done machine value => rfl
  | wait delay positive machine rest ih =>
    rw [beside, bind_stateAt, Reporter.wait_elapsed (Nat.le_add_right _ _),
      Nat.add_sub_cancel_left, stateAt]
    split
    · rw [ih, Reporter.wait_final_machine]
    · exact Reporter.wait_stateAt_machine time

end Undisturbed

section Glimpse
variable {ties} {time start : Nat} (method : String)

/-- A tick before the end of the first wait finds the machine with which the wait began. -/
theorem glimpse_of_lt {delay : Nat} (positive : 0 < delay) (machine : Machine)
    (rest : Machine → Course Machine α) (early : time < ties.bound (start + delay)) :
    (Course.wait delay positive machine rest).glimpse ties method start time =
      ⟨time, method, machine.report⟩ := by
  have seen := (ties.sight_lt_iff (by omega) time).mpr early
  have standing : ¬ delay ≤ ties.sight time - start := by omega
  simp only [glimpse, stateAt, standing, ↓reduceIte]

/-- Every later tick finds what comes after that wait. -/
theorem glimpse_of_le {delay : Nat} (positive : 0 < delay) (machine : Machine)
    (rest : Machine → Course Machine α) (late : ties.bound (start + delay) ≤ time) :
    (Course.wait delay positive machine rest).glimpse ties method start time =
      (rest machine).glimpse ties method (start + delay) time := by
  have seen := mt (ties.sight_lt_iff (by omega) time).mp (Nat.not_lt.mpr late)
  have passed : delay ≤ ties.sight time - start := by omega
  simp only [glimpse, stateAt, passed, ↓reduceIte, Nat.sub_sub]

/-- A tick that the run does not meet on its way finds what the run has come to. -/
theorem glimpse_of_reach_le (course : Course Machine α)
    (late : ties.reach start (start + course.elapsed) ≤ time) :
    course.glimpse ties method start time = ⟨time, method, course.final.report⟩ := by
  have ended : course.elapsed ≤ ties.sight time - start := by
    by_cases none : course.elapsed = 0
    · omega
    · have same : ties.reach start (start + course.elapsed) = ties.bound (start + course.elapsed) :=
        if_pos (by omega)
      have seen := mt (ties.sight_lt_iff (by omega) time).mp (Nat.not_lt.mpr (same ▸ late))
      omega
  rw [glimpse, course.stateAt_of_elapsed_le _ ended]

end Glimpse

/-- A running reporter sends the ticks on the way, each as the run stands then. -/
theorem beside_running (course : Course Machine α) {reporter : Reporter}
    (running : reporter.phase = .running) (early : reporter.now ≤ reporter.timer.due)
    (sent : List Notification) :
    let stop := reporter.now + course.elapsed
    let bound := ties.reach reporter.now stop
    (course.beside ties reporter sent).value.1 =
        { reporter with now := stop, timer := reporter.timer.past bound } ∧
      (course.beside ties reporter sent).final.sent = sent ++ (reporter.timer.ticks bound).map
        (course.glimpse ties reporter.method reporter.now) := by
  induction course generalizing reporter sent with
  | done machine value =>
    have none : ties.reach reporter.now (reporter.now + 0) ≤ reporter.timer.due := by
      simpa [Ties.reach] using early
    simp only [elapsed, Timer.past_of_le none, Timer.ticks_of_le none]
    exact ⟨rfl, (List.append_nil sent).symm⟩
  | wait delay positive machine rest ih =>
    let middle := ties.bound (reporter.now + delay)
    have ahead : reporter.now + delay ≤ middle := ties.le_bound _
    have later : middle ≤ (reporter.timer.past middle).due := reporter.timer.le_past_due middle
    have inside : reporter.now < middle := by omega
    obtain ⟨waited, after⟩ := Reporter.wait_running ⟨machine, sent⟩ running early inside
    obtain ⟨value, final⟩ := @ih machine { reporter with
      now := reporter.now + delay
      timer := reporter.timer.past middle } running (Nat.le_trans ahead later)
      (reporter.pushAt (reporter.timer.ticks middle) ⟨machine, sent⟩).sent
    obtain ⟨past, ticks⟩ := ties.reach_parted reporter.timer reporter.now delay
      (rest machine).elapsed positive
    rw [beside, bind_value, bind_final, waited, after]
    refine ⟨value.trans ?_, final.trans ?_⟩
    · rw [past]
      simp only [elapsed, Nat.add_assoc]
    · simp only [elapsed, ← ticks, List.map_append, Reporter.pushAt, List.append_assoc]
      congr 2
      · refine List.map_congr_left fun time member => ?_
        exact (glimpse_of_lt _ positive machine rest (Timer.mem_ticks.mp member).2).symm
      · refine List.map_congr_left fun time member => ?_
        have late := Nat.le_trans later (Timer.due_le_of_mem_ticks member)
        exact (glimpse_of_le _ positive machine rest late).symm

/-- A reporter that runs beside and is then finished sends the ticks on the way and at the
    end, each as the run stands then, and what the run has come to. -/
theorem beside_finish (course : Course Machine α) (reporter : Reporter)
    (running : reporter.phase = .running) (early : reporter.now ≤ reporter.timer.due)
    (sent : List Notification) :
    let stop := reporter.now + course.elapsed
    let whole := course.beside ties reporter sent
    (whole.value.1.finish ties whole.final).2.sent =
      sent ++ (reporter.timer.ticks (ties.close stop)).map
          (course.glimpse ties reporter.method reporter.now) ++
        [⟨stop, reporter.method, course.final.report⟩] := by
  intro stop whole
  have ahead : reporter.now ≤ stop := Nat.le_add_right ..
  let bound := ties.reach reporter.now stop
  have reached : stop ≤ bound := ties.le_reach ahead
  have later := reporter.timer.le_past_due bound
  obtain ⟨value, before⟩ := beside_running ties course running early sent
  have machine : whole.final.machine = course.final := beside_machine ties course reporter sent
  have still : whole.value.1.phase = .running := by rw [value]; exact running
  have ready : whole.value.1.now ≤ whole.value.1.timer.due := by
    rw [value]
    exact Nat.le_trans reached later
  rw [(Reporter.finish_running ties whole.final still ready).2, value, before, machine]
  rw [← reporter.timer.ticks_append (ties.reach_le_close ahead), List.map_append]
  simp only [List.append_assoc]
  congr 3
  refine List.map_congr_left fun time member => ?_
  exact (glimpse_of_reach_le _ course
    (Nat.le_trans later (Timer.due_le_of_mem_ticks member))).symm

section Quiet

theorem beside_quiet (course : Course Machine α) {reporter : Reporter} (quiet : reporter.Quiet)
    (sent : List Notification) : (course.beside ties reporter sent).final.sent = sent := by
  induction course generalizing reporter sent with
  | done machine value => rfl
  | wait delay positive machine rest ih =>
    obtain ⟨still, stays⟩ := Reporter.wait_quiet ⟨machine, sent⟩ quiet
    rw [beside, bind_final, stays]
    exact ih machine still sent

end Quiet

section Shown
variable {visible : Machine → Prop} {ending : α → Machine → Prop} {shown : Report → Prop}

/-- What holds of the report while the clock runs holds of every report that is sent. -/
theorem Keeps.beside {course : Course Machine α} (keeps : course.Keeps visible ending)
    (shows : ∀ machine, visible machine → shown machine.report) (reporter : Reporter)
    {sent : List Notification} (before : ∀ push ∈ sent, shown push.report) :
    (course.beside ties reporter sent).Keeps
      (fun s => visible s.machine ∧ ∀ push ∈ s.sent, shown push.report)
      fun value s => ending value.2 s.machine ∧ ∀ push ∈ s.sent, shown push.report := by
  induction course generalizing reporter sent with
  | done machine value => exact ⟨keeps, before⟩
  | wait delay positive machine rest ih =>
    let kept := fun s : Session => s.machine = machine ∧ ∀ push ∈ s.sent, shown push.report
    have pushed : ∀ r s, kept s → kept (Reporter.push r s) := fun r s held =>
      ⟨held.1, List.forall_mem_append.mpr
        ⟨held.2, List.forall_mem_singleton.mpr (held.1 ▸ shows machine keeps.1)⟩⟩
    have first : kept ⟨machine, sent⟩ := ⟨rfl, before⟩
    have waiting := Reporter.wait_keeps pushed ties (reporter.now + delay) reporter first
    refine (waiting.mono (fun s held => ⟨held.1 ▸ keeps.1, held.2⟩) fun _ _ => id).bind
      fun reporter session held => ?_
    obtain ⟨now, sent⟩ := session
    obtain ⟨rfl, shown⟩ := held
    exact ih now keeps.2 reporter shown

end Shown

end Course
end ExampleProbes
