import ExampleProbes.Run.Reporter

/-!
The ticks of a timer that come before a bound. How the way to the bound is divided makes no
difference to them. Where a tick falls on the time at which a wait ends, `Ties` says on
which side of the bound it is, and what it finds there.
-/
namespace ExampleProbes

namespace Timer
variable (timer : Timer)

/-- The time of a tick, counted from the next one. -/
def tick (k : Nat) : Nat := timer.due + k * timer.period

/-- How many ticks come before `bound`. -/
def before (bound : Nat) : Nat := (bound - timer.due + (timer.period - 1)) / timer.period

def ticks (bound : Nat) : List Nat := (List.range (timer.before bound)).map timer.tick

/-- The timer when these ticks have gone by. -/
def past (bound : Nat) : Timer := { timer with due := timer.tick (timer.before bound) }

theorem lt_before_iff (k bound : Nat) : k < timer.before bound ↔ timer.tick k < bound := by
  have positive := timer.positive
  have later : (k + 1) * timer.period = k * timer.period + timer.period := Nat.succ_mul ..
  rw [before, tick, Nat.lt_iff_add_one_le, Nat.le_div_iff_mul_le positive, later]
  omega

theorem le_past_due (bound : Nat) : bound ≤ (timer.past bound).due := by
  have last := timer.lt_before_iff (timer.before bound) bound
  simp only [past]
  omega

theorem past_tick (bound k : Nat) :
    (timer.past bound).tick k = timer.tick (timer.before bound + k) := by
  simp only [tick, past, Nat.add_mul]
  omega

variable {first second bound : Nat}

theorem before_mono (less : first ≤ second) : timer.before first ≤ timer.before second := by
  unfold before
  apply Nat.div_le_div_right
  omega

theorem before_past (less : first ≤ second) :
    (timer.past first).before second = timer.before second - timer.before first := by
  have mono := timer.before_mono less
  have same : ∀ k, k < (timer.past first).before second ↔
      k < timer.before second - timer.before first := by
    intro k
    rw [lt_before_iff, past_tick, ← lt_before_iff]
    omega
  have upper := same ((timer.past first).before second)
  have lower := same (timer.before second - timer.before first)
  omega

theorem past_past (less : first ≤ second) : (timer.past first).past second = timer.past second := by
  have mono := timer.before_mono less
  have due : ((timer.past first).past second).due = (timer.past second).due := by
    show (timer.past first).tick ((timer.past first).before second) = _
    rw [timer.before_past less, past_tick, Nat.add_sub_cancel' mono]
    rfl
  exact congrArg (fun due => ({ timer with due } : Timer)) due

theorem ticks_append (less : first ≤ second) :
    timer.ticks first ++ (timer.past first).ticks second = timer.ticks second := by
  have mono := timer.before_mono less
  have parted : List.range (timer.before second) = List.range (timer.before first) ++
      (List.range (timer.before second - timer.before first)).map (timer.before first + ·) := by
    rw [← List.range_add, Nat.add_sub_cancel' mono]
  unfold ticks
  rw [timer.before_past less, parted, List.map_append, List.map_map]
  exact congrArg _ (List.map_congr_left fun k _ => timer.past_tick first k)

variable {timer}

theorem before_of_le (early : bound ≤ timer.due) : timer.before bound = 0 := by
  have none := (timer.lt_before_iff 0 bound).mp
  unfold tick at none
  omega

theorem ticks_of_le (early : bound ≤ timer.due) : timer.ticks bound = [] := by
  simp [ticks, before_of_le early]

theorem past_of_le (early : bound ≤ timer.due) : timer.past bound = timer := by
  simp [past, before_of_le early, tick]

theorem mem_ticks {time : Nat} :
    time ∈ timer.ticks bound ↔ (∃ k, timer.tick k = time) ∧ time < bound := by
  unfold ticks
  rw [List.mem_map]
  constructor
  · rintro ⟨k, member, rfl⟩
    exact ⟨⟨k, rfl⟩, (timer.lt_before_iff k bound).mp (List.mem_range.mp member)⟩
  · rintro ⟨⟨k, rfl⟩, inside⟩
    exact ⟨k, List.mem_range.mpr ((timer.lt_before_iff k bound).mpr inside), rfl⟩

theorem due_le_of_mem_ticks {time : Nat} (member : time ∈ timer.ticks bound) :
    timer.due ≤ time := by
  obtain ⟨⟨k, rfl⟩, _⟩ := mem_ticks.mp member
  exact Nat.le_add_right ..

/-- If any tick comes before the bound, the next one does. -/
theorem ticks_of_lt (early : timer.due < bound) :
    timer.ticks bound = timer.due :: timer.next.ticks bound ∧
      timer.past bound = timer.next.past bound := by
  have one : timer.before (timer.due + 1) = 1 := by
    have positive := timer.positive
    have first := timer.lt_before_iff 0 (timer.due + 1)
    have second := timer.lt_before_iff 1 (timer.due + 1)
    simp only [tick] at first second
    omega
  have after : timer.past (timer.due + 1) = timer.next := by simp [past, next, one, tick]
  have alone : timer.ticks (timer.due + 1) = [timer.due] := by simp [ticks, one, tick]
  rw [← timer.ticks_append (Nat.succ_le_of_lt early),
    ← timer.past_past (Nat.succ_le_of_lt early), alone, after]
  exact ⟨rfl, rfl⟩

end Timer

namespace Ties

/-- Ticks before this bound are sent by a reporter that is cancelled at `stop`. -/
def close (ties : Ties) (stop : Nat) : Nat := if ties stop = .last then stop else stop + 1

/-- Ticks before this bound are sent by a reporter beside a run that goes on at `stop`. -/
def bound (ties : Ties) (stop : Nat) : Nat := if ties stop = .first then stop + 1 else stop

/-- Ticks before this bound are sent beside a run on its way from `now` to `stop`. -/
def reach (ties : Ties) (now stop : Nat) : Nat := if now < stop then ties.bound stop else now

/-- A tick finds what the run was at this time. -/
def sight (ties : Ties) (time : Nat) : Nat := if ties time = .first then time - 1 else time

theorem le_bound (ties : Ties) (stop : Nat) : stop ≤ ties.bound stop := by
  unfold bound
  split <;> omega

theorem close_mono (ties : Ties) {first last : Nat} (ordered : first ≤ last) :
    ties.close first ≤ ties.close last := by
  rcases Nat.lt_or_eq_of_le ordered with before | rfl
  · unfold close
    split <;> split <;> omega
  · exact Nat.le_refl _

theorem reach_le_close (ties : Ties) {now stop : Nat} (ahead : now ≤ stop) :
    ties.reach now stop ≤ ties.close stop := by
  unfold reach bound close
  cases ties stop <;> simp only [reduceCtorEq, ↓reduceIte] <;> split <;> omega

theorem sight_lt_iff (ties : Ties) {stop : Nat} (positive : 0 < stop) (time : Nat) :
    ties.sight time < stop ↔ time < ties.bound stop := by
  unfold sight bound
  by_cases here : time = stop
  · rw [here]
    split <;> omega
  · split <;> split <;> omega

theorem le_reach (ties : Ties) {now stop : Nat} (ahead : now ≤ stop) :
    stop ≤ ties.reach now stop := by
  have beyond := ties.le_bound stop
  unfold reach
  split <;> omega

/-- The ticks on the way of a wait and of what comes after it are those on the whole way. -/
theorem reach_parted (ties : Ties) (timer : Timer) (start delay rest : Nat) (positive : 0 < delay) :
    let middle := ties.bound (start + delay)
    let last := ties.reach (start + delay) (start + delay + rest)
    let whole := ties.reach start (start + (delay + rest))
    (timer.past middle).past last = timer.past whole ∧
      timer.ticks middle ++ (timer.past middle).ticks last = timer.ticks whole := by
  intro middle last whole
  have total : whole = ties.bound (start + (delay + rest)) := by
    simp only [whole, reach]
    rw [if_pos (by omega)]
  by_cases ends : rest = 0
  · have none : last ≤ (timer.past middle).due := by
      have later := timer.le_past_due middle
      have ahead := ties.le_bound (start + delay)
      simp only [last, ends, reach, Nat.add_zero, Nat.lt_irrefl, ↓reduceIte]
      omega
    have same : whole = middle := by rw [total, ends, Nat.add_zero]
    rw [Timer.past_of_le none, Timer.ticks_of_le none, List.append_nil, same]
    exact ⟨rfl, rfl⟩
  · have same : last = whole := by
      rw [total]
      simp only [last, reach]
      rw [if_pos (by omega), Nat.add_assoc]
    have less : middle ≤ last := by
      have ahead := ties.le_bound (start + (delay + rest))
      have near : middle ≤ start + delay + 1 := by
        simp only [middle, bound]
        split <;> omega
      omega
    exact ⟨same ▸ timer.past_past less, same ▸ timer.ticks_append less⟩

end Ties
end ExampleProbes
