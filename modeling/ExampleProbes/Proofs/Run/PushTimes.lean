import ExampleProbes.Proofs.Run.Pushes
import ExampleProbes.Report.Change

/-!
What a reporter sends in its life. The run beside it sleeps and changes the report, then
finishes or drops the reporter and goes on. One report is sent for each tick before that, as
the changes made up to the tick leave it; a reporter that is finished sends one more; and
nothing is sent after that.
-/
namespace ExampleProbes.Reporter

/-- What goes on beside a reporter: time passes, or the report is changed. -/
inductive Step where
  | sleep (delay : Nat)
  | change (change : Change)
  deriving DecidableEq, Repr

inductive Ending where
  | finish
  | drop
  deriving DecidableEq, Repr

def perform : List Step → Process Machine Unit
  | [] => return ()
  | .sleep delay :: rest => do
    Process.sleep delay
    perform rest
  | .change change :: rest => do
    Process.modify (·.change fun report => change.applied report)
    perform rest

/-- The reporter is finished, or it is dropped, which cancels its loop and waits for nothing. -/
def stop (ties : Ties) (ending : Ending) (reporter : Reporter) (session : Session) :
    Reporter × Session :=
  match ending with
  | .finish => reporter.finish ties session
  | .drop => (reporter.cancel, session)

/-- All that is sent by a reporter that runs beside the steps and is then stopped, where the
    run goes on with what comes `after`. -/
def sentBeside (ties : Ties) (settings : Settings) (steps : List Step) (ending : Ending)
    (after : List Step) : List Notification :=
  let run := (perform steps {}).beside ties (.start settings) []
  let (reporter, session) := run.value.1.stop ties ending run.final
  ((perform after session.machine).beside ties reporter session.sent).final.sent

def elapsed : List Step → Nat
  | [] => 0
  | .sleep delay :: rest => Time.span delay + elapsed rest
  | .change _ :: rest => elapsed rest

/-- The times at which the sleeps among steps end that begin at `now`. -/
def sleepEnds (now : Nat) : List Step → List Nat
  | [] => []
  | .sleep delay :: rest => (now + Time.span delay) :: sleepEnds (now + Time.span delay) rest
  | .change _ :: rest => sleepEnds now rest

/-- The changes among steps that begin at `now`, each with the time at which it is made. -/
def writes (now : Nat) : List Step → List (Nat × Change)
  | [] => []
  | .sleep delay :: rest => writes (now + Time.span delay) rest
  | .change change :: rest => (now, change) :: writes now rest

/-- What the changes made up to `time` make of a report. -/
def written (time : Nat) (changes : List (Nat × Change)) (report : Report) : Report :=
  ((changes.filter fun change => change.1 ≤ time).map Prod.snd).foldl Change.applied report

/-- The report as the changes made up to `time` leave it. -/
def reportAt (time : Nat) (steps : List Step) : Report := written time (writes 0 steps) {}

/-- What is sent when the steps are over: by a reporter that finishes the report of that time. -/
def closing (settings : Settings) (steps : List Step) : Ending → List Notification
  | .finish => [⟨elapsed steps, settings.notificationMethod, reportAt (elapsed steps) steps⟩]
  | .drop => []

/-- One report for each time `initialPushDelay + k * period` before the steps are over, and
    what the ending sends. -/
def SentOnTime (settings : Settings) (period : Nat) (steps : List Step) (ending : Ending)
    (sent : List Notification) : Prop :=
  ∃ count, (∀ k, k < count ↔ settings.initialPushDelay + k * period < elapsed steps) ∧
    sent = (List.range count).map (fun k =>
      let time := settings.initialPushDelay + k * period
      ⟨time, settings.notificationMethod, reportAt time steps⟩) ++ closing settings steps ending

/-- No tick falls on the end of the steps or of one of their sleeps. -/
def Clear (settings : Settings) (period : Nat) (steps : List Step) : Prop :=
  ∀ k, ∀ time ∈ elapsed steps :: sleepEnds 0 steps, settings.initialPushDelay + k * period ≠ time

section Steps
variable (steps : List Step) (machine : Machine)

theorem perform_elapsed : (perform steps machine).elapsed = elapsed steps := by
  induction steps generalizing machine with
  | nil => rfl
  | cons step rest ih =>
    cases step with
    | sleep delay =>
      simp only [perform, Process.bind_elapsed, Process.sleep_elapsed, elapsed, ih]
    | change change =>
      simp only [perform, Process.bind_elapsed, elapsed, ih]
      exact Nat.zero_add _

theorem le_writes (now : Nat) : ∀ change ∈ writes now steps, now ≤ change.1 := by
  induction steps generalizing now with
  | nil => exact List.forall_mem_nil _
  | cons step rest ih =>
    cases step with
    | sleep delay => exact fun change made => Nat.le_of_add_right_le (ih _ change made)
    | change change => exact List.forall_mem_cons.mpr ⟨Nat.le_refl now, ih now⟩

/-- A change is made at once or when a sleep has ended. -/
theorem writes_at (now : Nat) :
    ∀ change ∈ writes now steps, change.1 = now ∨ change.1 ∈ sleepEnds now steps := by
  induction steps generalizing now with
  | nil => exact List.forall_mem_nil _
  | cons step rest ih =>
    cases step with
    | sleep delay =>
      intro change made
      exact Or.inr (List.mem_cons.mpr (ih (now + Time.span delay) change made))
    | change change => exact List.forall_mem_cons.mpr ⟨Or.inl rfl, ih now⟩

theorem written_of_future {time : Nat} {changes : List (Nat × Change)}
    (future : ∀ change ∈ changes, time < change.1) (report : Report) :
    written time changes report = report := by
  have none : changes.filter (fun change => change.1 ≤ time) = [] := by
    refine List.filter_eq_nil_iff.mpr fun change member => ?_
    have after := future change member
    simp only [decide_eq_true_eq]
    omega
  rw [written, none]
  rfl

theorem perform_stateAt (now time : Nat) :
    ((perform steps machine).stateAt time).report =
      written (now + time) (writes now steps) machine.report := by
  induction steps generalizing machine now time with
  | nil => rfl
  | cons step rest ih =>
    cases step with
    | sleep delay =>
      rw [perform, Process.bind_stateAt, Process.sleep_elapsed, Process.sleep_final,
        Process.sleep_stateAt]
      split
      · rename_i passed
        have whole : now + Time.span delay + (time - Time.span delay) = now + time := by omega
        rw [ih machine (now + Time.span delay), whole]
        rfl
      · rename_i short
        refine (written_of_future (fun change made => ?_) machine.report).symm
        have late := le_writes rest (now + Time.span delay) change made
        omega
    | change change =>
      have here : now ≤ now + time := Nat.le_add_right now time
      refine (ih _ now time).trans ?_
      simp only [written, writes, List.filter_cons, here, decide_true, ↓reduceIte, List.map_cons,
        List.foldl_cons]
      rfl

theorem perform_final : (perform steps {}).final.report = reportAt (elapsed steps) steps := by
  have stands := perform_stateAt steps {} 0 (elapsed steps)
  rw [Course.stateAt_of_elapsed_le _ _ (Nat.le_of_eq (perform_elapsed steps {})),
    Nat.zero_add] at stands
  exact stands

end Steps

section Clear
variable {timer : Timer} (ties : Ties) {stop : Nat} (clear : ∀ k, timer.tick k ≠ stop)
include clear

theorem before_succ : timer.before (stop + 1) = timer.before stop := by
  have less : timer.before stop ≤ timer.before (stop + 1) := timer.before_mono (Nat.le_succ stop)
  have inside := (timer.lt_before_iff (timer.before stop) (stop + 1)).mp
  have outside := mt (timer.lt_before_iff (timer.before stop) stop).mpr (Nat.lt_irrefl _)
  have apart := clear (timer.before stop)
  omega

theorem ticks_close : timer.ticks (ties.close stop) = timer.ticks stop := by
  unfold Ties.close
  split
  · rfl
  · rw [Timer.ticks, Timer.ticks, before_succ clear]

theorem ticks_reach : timer.ticks (ties.reach 0 stop) = timer.ticks stop := by
  unfold Ties.reach Ties.bound
  split
  · split
    · rw [Timer.ticks, Timer.ticks, before_succ clear]
    · rfl
  · rename_i ended
    rw [Nat.eq_zero_of_not_pos ended]

end Clear

section Beside
variable {settings : Settings} {steps : List Step}
  (clear : Clear settings (Timer.ofSettings settings).period steps)
include clear

/-- A tick that is taken up before the run goes on finds what it would find after that. -/
theorem reportAt_sight (ties : Ties) (k : Nat) :
    let time := (Timer.ofSettings settings).tick k
    reportAt (ties.sight time) steps = reportAt time steps := by
  intro time
  unfold reportAt written
  congr 2
  refine List.filter_congr fun change made => decide_eq_decide.mpr ?_
  have seen : ties.sight time = time ∨ ties.sight time = time - 1 := by
    unfold Ties.sight
    split
    · exact .inr rfl
    · exact .inl rfl
  rcases writes_at steps 0 change made with begins | ends
  · omega
  · have apart : time ≠ change.1 := clear k change.1 (List.mem_cons_of_mem _ ends)
    omega

theorem tick_ne_elapsed (k : Nat) : (Timer.ofSettings settings).tick k ≠ elapsed steps :=
  clear k (elapsed steps) List.mem_cons_self

theorem glimpses_eq (ties : Ties) :
    ((Timer.ofSettings settings).ticks (elapsed steps)).map
        ((perform steps {}).glimpse ties settings.notificationMethod 0) =
      (List.range ((Timer.ofSettings settings).before (elapsed steps))).map fun k =>
        let time := settings.initialPushDelay + k * (Timer.ofSettings settings).period
        ⟨time, settings.notificationMethod, reportAt time steps⟩ := by
  rw [Timer.ticks, List.map_map]
  refine List.map_congr_left fun k _ => ?_
  have stands := perform_stateAt steps {} 0 (ties.sight ((Timer.ofSettings settings).tick k))
  rw [Nat.zero_add] at stands
  simp only [Function.comp_apply, Course.glimpse, Nat.sub_zero, stands]
  exact congrArg _ (reportAt_sight clear ties k)

/-- The next tick comes after the end, as none falls on it. -/
theorem elapsed_lt_due (ties : Ties) : elapsed steps <
    ((Timer.ofSettings settings).past (ties.reach 0 (elapsed steps))).due := by
  have later := (Timer.ofSettings settings).le_past_due (ties.reach 0 (elapsed steps))
  have reached := ties.le_reach (Nat.zero_le (elapsed steps))
  have apart := tick_ne_elapsed clear
    ((Timer.ofSettings settings).before (ties.reach 0 (elapsed steps)))
  exact Nat.lt_of_le_of_ne (Nat.le_trans reached later) apart.symm

/-- What was sent when the reporter is stopped, which has nothing more to send then. -/
theorem stop_sent (ties : Ties) (ending : Ending) :
    let run := (perform steps {}).beside ties (.start settings) []
    (run.value.1.stop ties ending run.final).1.Quiet ∧
      (run.value.1.stop ties ending run.final).2.sent =
        ((Timer.ofSettings settings).ticks (elapsed steps)).map
          ((perform steps {}).glimpse ties settings.notificationMethod 0) ++
        closing settings steps ending := by
  intro run
  let reporter := Reporter.start settings
  have begins : reporter.now + (perform steps {}).elapsed = elapsed steps := by
    rw [perform_elapsed]
    exact Nat.zero_add _
  have apart := tick_ne_elapsed clear
  obtain ⟨value, sent⟩ := (perform steps {}).beside_running ties
    (show reporter.phase = .running from rfl) (Nat.zero_le _) []
  simp only [begins] at value sent
  have ahead := elapsed_lt_due clear ties
  cases ending with
  | drop =>
    refine ⟨?_, ?_⟩
    · show run.value.1.cancel.Quiet
      rw [value]
      exact quiet_cancel ahead
    · refine sent.trans ?_
      rw [closing, List.append_nil, List.nil_append]
      exact congrArg (List.map _) (ticks_reach ties apart)
  | finish =>
    have still : run.value.1.phase = .running := by rw [value]; rfl
    have ready : run.value.1.now ≤ run.value.1.timer.due := by
      rw [value]
      exact Nat.le_of_lt ahead
    refine ⟨.inl (finish_running ties run.final still ready).1, ?_⟩
    have sends := (perform steps {}).beside_finish ties reporter rfl (Nat.zero_le _) []
    simp only [begins, List.nil_append] at sends
    refine sends.trans ?_
    rw [perform_final, closing]
    exact congrArg (List.map _ · ++ _) (ticks_close ties apart)

end Beside

/-- A reporter sends the report at the times that the settings name, as the changes made up to
    each of them leave it, and once more if it is finished, but nothing if it is dropped. What
    goes on afterwards changes nothing of this. An interval longer than the longest pause is
    cut to it. -/
theorem sent_on_time (ties : Ties) (settings : Settings) {steps : List Step}
    (clear : Clear settings (max (min settings.pushInterval Time.longest) 1) steps)
    (ending : Ending) (after : List Step) :
    SentOnTime settings (max (min settings.pushInterval Time.longest) 1) steps ending
      (sentBeside ties settings steps ending after) := by
  obtain ⟨quiet, sent⟩ := stop_sent clear ties ending
  have counted := (Timer.ofSettings settings).lt_before_iff
  refine ⟨(Timer.ofSettings settings).before (elapsed steps), fun k => counted k _, ?_⟩
  rw [glimpses_eq clear] at sent
  rw [sentBeside]
  exact (Course.beside_quiet ties _ quiet _).trans sent

/-- The second file is registered between two ticks, the third when the reporter has gone. -/
theorem two_ticks_and_the_end :
    let settings : Settings := {}
    let period := max (min settings.pushInterval Time.longest) 1
    let steps : List Step := [.change (.file "a" "toy"), .sleep 600, .change (.file "b" "toy"),
      .sleep 300]
    let sent := sentBeside (fun _ => .between) settings steps .finish
      [.change (.file "c" "toy"), .sleep 1000]
    Clear settings period steps ∧ SentOnTime settings period steps .finish sent ∧
      sent.map (fun push => (push.time, push.report.files.map (·.uri))) =
        [(250, ["a"]), (750, ["a", "b"]), (900, ["a", "b"])] := by
  intro settings period steps sent
  have clear : Clear settings period steps := by
    intro k time member
    have ends : time = 900 ∨ time = 600 ∨ time = 900 := by
      simpa [elapsed, sleepEnds, steps, Time.span, Time.longest] using member
    show 250 + k * 500 ≠ time
    omega
  exact ⟨clear, sent_on_time (fun _ => .between) settings clear .finish _, by decide +kernel⟩

/-- No tick falls on an end, be the interval cut or not. -/
theorem longer_interval_is_cut :
    let settings : Settings := { initialPushDelay := 3, pushInterval := 946080001000 }
    let period := max settings.pushInterval 1
    let steps : List Step := [.sleep 10, .sleep 946080000000]
    Clear settings period steps ∧
      Clear settings (max (min settings.pushInterval Time.longest) 1) steps ∧
      ¬ SentOnTime settings period steps .finish
        (sentBeside (fun _ => .last) settings steps .finish []) := by
  intro settings period steps
  have ends : elapsed steps :: sleepEnds 0 steps = [946080000010, 10, 946080000010] := by
    decide +kernel
  have clear : ∀ length, 946080000000 ≤ length → length ≠ 946080000007 →
      Clear settings length steps := by
    intro length long apart k time member
    rw [ends] at member
    have same : time = 946080000010 ∨ time = 10 ∨ time = 946080000010 := by
      simpa using member
    show 3 + k * length ≠ time
    by_cases few : k ≤ 1
    · obtain rfl | rfl : k = 0 ∨ k = 1 := by omega
      · omega
      · omega
    · have twice : 2 * length ≤ k * length := Nat.mul_le_mul_right length (by omega)
      omega
  refine ⟨clear _ (by decide) (by decide), clear _ (by decide) (by decide), ?_⟩
  rintro ⟨count, counted, sent⟩
  have length := congrArg List.length sent
  have three : (sentBeside (fun _ => .last) settings steps .finish []).length = 3 := by
    decide +kernel
  have total : elapsed steps = 946080000010 := (List.cons.inj ends).1
  -- The second tick would come a second after the end.
  have second := counted 1
  rw [three, List.length_append, List.length_map, List.length_range] at length
  simp only [closing, List.length_singleton] at length
  rw [total] at second
  simp only [settings, period] at second
  omega

end ExampleProbes.Reporter
