import ExampleProbes.Run.Course

/-!
Laws of courses: how the final state, the value and the time of a course arise from its
parts, where it stands at a given time, and what giving it up leaves. `Keeps` is the rule
by which a property of every state in which the clock runs is proved step by step, `Onward`
the one for what holds between a state and every later one.
-/
namespace ExampleProbes.Course
variable {σ τ α β : Type}

theorem bind_final (f : α → σ → Course σ β) (course : Course σ α) :
    (course.bind f).final = (f course.value course.final).final := by
  induction course with
  | done state value => rfl
  | wait delay positive state rest ih => exact ih state

theorem bind_value (f : α → σ → Course σ β) (course : Course σ α) :
    (course.bind f).value = (f course.value course.final).value := by
  induction course with
  | done state value => rfl
  | wait delay positive state rest ih => exact ih state

theorem bind_elapsed (f : α → σ → Course σ β) (course : Course σ α) :
    (course.bind f).elapsed = course.elapsed + (f course.value course.final).elapsed := by
  induction course with
  | done state answer => simp [bind, elapsed, value, final]
  | wait delay positive state rest ih =>
    simp only [bind, elapsed, value, final, ih]
    omega

@[simp] theorem pause_final (delay : Nat) (state : σ) (rest : σ → Course σ α) :
    (pause delay state rest).final = (rest state).final := by
  unfold pause
  split <;> rfl

@[simp] theorem pause_value (delay : Nat) (state : σ) (rest : σ → Course σ α) :
    (pause delay state rest).value = (rest state).value := by
  unfold pause
  split <;> rfl

@[simp] theorem pause_elapsed (delay : Nat) (state : σ) (rest : σ → Course σ α) :
    (pause delay state rest).elapsed = delay + (rest state).elapsed := by
  unfold pause
  split
  · rfl
  · omega

/-- The state in which the undisturbed course stands when `time` has passed. -/
def stateAt : (time : Nat) → Course σ α → σ
  | _, .done state _ => state
  | time, .wait delay _ state rest =>
    if delay ≤ time then (rest state).stateAt (time - delay) else state

theorem stateAt_of_elapsed_le (course : Course σ α) (time : Nat)
    (ended : course.elapsed ≤ time) : course.stateAt time = course.final := by
  induction course generalizing time with
  | done state value => rfl
  | wait delay positive state rest ih =>
    simp only [elapsed] at ended
    have reached : delay ≤ time := by omega
    simp only [stateAt, reached, ↓reduceIte, final]
    exact ih state (time - delay) (by omega)

theorem pause_stateAt (delay time : Nat) (state : σ) (rest : σ → Course σ α) :
    (pause delay state rest).stateAt time =
      if delay ≤ time then (rest state).stateAt (time - delay) else state := by
  unfold pause
  split
  · rfl
  · rename_i none
    simp [Nat.eq_zero_of_not_pos none]

theorem stateAt_min (course : Course σ α) (time : Nat) :
    course.stateAt (min course.elapsed time) = course.stateAt time := by
  by_cases ended : course.elapsed ≤ time
  · rw [Nat.min_eq_left ended, stateAt_of_elapsed_le course _ (Nat.le_refl _),
      stateAt_of_elapsed_le course _ ended]
  · rw [Nat.min_eq_right (by omega)]

/-- The second part begins where the first has ended. -/
theorem bind_stateAt (f : α → σ → Course σ β) (course : Course σ α) (time : Nat) :
    (course.bind f).stateAt time =
      if course.elapsed ≤ time then
        (f course.value course.final).stateAt (time - course.elapsed)
      else course.stateAt time := by
  induction course generalizing time with
  | done state answer => simp [bind, elapsed, value, final]
  | wait delay positive state rest ih =>
    simp only [bind, stateAt, elapsed, value, final, ih]
    by_cases reached : delay ≤ time
    · have same : (rest state).elapsed ≤ time - delay ↔ delay + (rest state).elapsed ≤ time := by
        omega
      simp only [reached, ↓reduceIte, same, Nat.sub_add_eq]
    · have short : ¬ delay + (rest state).elapsed ≤ time := by omega
      simp only [reached, short, ↓reduceIte]

theorem cut_value (cleanup : σ → σ) (budget : Nat) (course : Course σ α) :
    (course.cut cleanup budget).value =
      if course.elapsed ≤ budget then some course.value else none := by
  induction course generalizing budget with
  | done state answer => simp [cut, elapsed, value]
  | wait delay positive state rest ih =>
    simp only [cut, elapsed]
    split
    · have same : delay + (rest state).elapsed ≤ budget ↔
          (rest state).elapsed ≤ budget - delay := by omega
      simp only [value, ih, same]
    · have late : ¬ delay + (rest state).elapsed ≤ budget := by omega
      simp [late, value]

theorem cut_elapsed (cleanup : σ → σ) (budget : Nat) (course : Course σ α) :
    (course.cut cleanup budget).elapsed = min course.elapsed budget := by
  induction course generalizing budget with
  | done state value => simp [cut, elapsed]
  | wait delay positive state rest ih =>
    simp only [cut]
    split
    · simp only [elapsed, ih]
      omega
    · simp only [pause_elapsed, elapsed]
      omega

theorem cut_final (cleanup : σ → σ) (budget : Nat) (course : Course σ α) :
    (course.cut cleanup budget).final =
      if course.elapsed ≤ budget then course.final
      else cleanup (course.stateAt budget) := by
  induction course generalizing budget with
  | done state value => simp [cut, elapsed, final]
  | wait delay positive state rest ih =>
    simp only [cut, elapsed, stateAt]
    split
    · have same : delay + (rest state).elapsed ≤ budget ↔
          (rest state).elapsed ≤ budget - delay := by omega
      simp only [final, ih, same]
    · have late : ¬ delay + (rest state).elapsed ≤ budget := by omega
      simp [late, final]

theorem cut_stateAt (cleanup : σ → σ) {budget time : Nat} (early : time < budget)
    (course : Course σ α) : (course.cut cleanup budget).stateAt time = course.stateAt time := by
  induction course generalizing budget time with
  | done state value => rfl
  | wait delay positive state rest ih =>
    simp only [cut, stateAt]
    split
    · simp only [stateAt]
      split
      · exact ih state (by omega)
      · rfl
    · have standing : ¬ budget ≤ time := by omega
      have short : ¬ delay ≤ time := by omega
      simp only [pause_stateAt, standing, short, ↓reduceIte]

theorem within_elapsed {part : τ → σ} {put : σ → τ → τ}
    (lens : ∀ state whole, part (put state whole) = state) (course : Course σ α) (whole : τ) :
    (course.within part put whole).elapsed = course.elapsed := by
  induction course generalizing whole with
  | done state value => rfl
  | wait delay positive state rest ih => simp only [within, elapsed, ih, lens]

/-- Every state in which the clock runs is `visible`, and the course ends as `ending` says. -/
def Keeps (visible : σ → Prop) (ending : α → σ → Prop) : Course σ α → Prop
  | .done state value => ending value state
  | .wait _ _ state rest => visible state ∧ (rest state).Keeps visible ending

variable {visible : σ → Prop} {ending : α → σ → Prop}

theorem Keeps.mono {wider : σ → Prop} {weaker : α → σ → Prop} {course : Course σ α}
    (keeps : course.Keeps visible ending) (seen : ∀ state, visible state → wider state)
    (last : ∀ value state, ending value state → weaker value state) :
    course.Keeps wider weaker := by
  induction course with
  | done state value => exact last value state keeps
  | wait delay positive state rest ih => exact ⟨seen state keeps.1, ih state keeps.2⟩

theorem Keeps.bind {after : β → σ → Prop} {f : α → σ → Course σ β} {course : Course σ α}
    (keeps : course.Keeps visible ending)
    (next : ∀ value state, ending value state → (f value state).Keeps visible after) :
    (course.bind f).Keeps visible after := by
  induction course with
  | done state value => exact next value state keeps
  | wait delay positive state rest ih => exact ⟨keeps.1, ih state keeps.2⟩

theorem Keeps.pause {delay : Nat} {state : σ} {rest : σ → Course σ α} (seen : visible state)
    (keeps : (rest state).Keeps visible ending) :
    (pause delay state rest).Keeps visible ending := by
  unfold Course.pause
  split
  · exact ⟨seen, keeps⟩
  · exact keeps

theorem Keeps.ends {course : Course σ α} (keeps : course.Keeps visible ending) :
    ending course.value course.final := by
  induction course with
  | done state value => exact keeps
  | wait delay positive state rest ih => exact ih state keeps.2

/-- What is given up is given up in a visible state. -/
theorem Keeps.cut {course : Course σ α} (keeps : course.Keeps visible ending)
    (cleanup : σ → σ) (budget : Nat) :
    (course.cut cleanup budget).Keeps visible fun
      | some value, state => ending value state
      | none, state => ∃ left, visible left ∧ state = cleanup left := by
  induction course generalizing budget with
  | done state value => exact keeps
  | wait delay positive state rest ih =>
    simp only [Course.cut]
    split
    · exact ⟨keeps.1, ih state keeps.2 (budget - delay)⟩
    · exact Keeps.pause keeps.1 ⟨state, keeps.1, rfl⟩

/-- The states in which the clock runs, and the final one. -/
def states : Course σ α → List σ
  | .done state _ => [state]
  | .wait _ _ state rest => state :: (rest state).states

theorem Keeps.states {course : Course σ α} (keeps : course.Keeps visible ending)
    (state : σ) (member : state ∈ course.states) :
    visible state ∨ ∃ value, ending value state := by
  induction course with
  | done last value =>
    rw [List.mem_singleton.mp member]
    exact Or.inr ⟨value, keeps⟩
  | wait delay positive seen rest ih =>
    rcases List.mem_cons.mp member with same | later
    · exact Or.inl (same ▸ keeps.1)
    · exact ih seen keeps.2 later

structure Forward (later : σ → σ → Prop) : Prop where
  refl : ∀ state, later state state
  trans : ∀ {a b c}, later a b → later b c → later a c

theorem forward_of_invariant (invariant : σ → Prop) :
    Forward fun a b => invariant a → invariant b :=
  ⟨fun _ => id, fun first second => second ∘ first⟩

theorem Forward.comap {later : τ → τ → Prop} (forward : Forward later) (f : σ → τ) :
    Forward fun a b => later (f a) (f b) :=
  ⟨fun state => forward.refl (f state), fun first second => forward.trans first second⟩

/-- Each state of the course comes later than the one before it, the first than `state`. -/
def Onward (later : σ → σ → Prop) (state : σ) : Course σ α → Prop
  | .done last _ => later state last
  | .wait _ _ next rest => later state next ∧ (rest next).Onward later next

variable {later : σ → σ → Prop} {start : σ}

theorem Onward.earlier (forward : Forward later) {course : Course σ α} {first : σ}
    (before : later first start) (onward : course.Onward later start) :
    course.Onward later first := by
  cases course with
  | done last value => exact forward.trans before onward
  | wait delay positive next rest => exact ⟨forward.trans before onward.1, onward.2⟩

theorem Onward.bind (forward : Forward later) {f : α → σ → Course σ β} {course : Course σ α}
    (onward : course.Onward later start)
    (next : ∀ value state, (f value state).Onward later state) :
    (course.bind f).Onward later start := by
  induction course generalizing start with
  | done last value => exact (next value last).earlier forward onward
  | wait delay positive seen rest ih => exact ⟨onward.1, ih seen onward.2⟩

theorem Onward.pause (forward : Forward later) {delay : Nat} {state : σ}
    {rest : σ → Course σ α} (since : later start state)
    (onward : (rest state).Onward later state) : (pause delay state rest).Onward later start := by
  unfold Course.pause
  split
  · exact ⟨since, onward⟩
  · exact onward.earlier forward since

theorem Onward.cut (forward : Forward later) {course : Course σ α}
    (onward : course.Onward later start) {cleanup : σ → σ}
    (cleaned : ∀ state, later state (cleanup state)) (budget : Nat) :
    (course.cut cleanup budget).Onward later start := by
  induction course generalizing start budget with
  | done last value => exact onward
  | wait delay positive seen rest ih =>
    simp only [Course.cut]
    split
    · exact ⟨onward.1, ih seen onward.2 (budget - delay)⟩
    · exact Onward.pause forward onward.1 (cleaned seen)

theorem Onward.final (forward : Forward later) {course : Course σ α}
    (onward : course.Onward later start) : later start course.final := by
  induction course generalizing start with
  | done last value => exact onward
  | wait delay positive seen rest ih => exact forward.trans onward.1 (ih seen onward.2)

theorem Onward.states (forward : Forward later) {course : Course σ α}
    (onward : course.Onward later start) (state : σ) (member : state ∈ course.states) :
    later state course.final := by
  induction course generalizing start with
  | done last value =>
    rw [List.mem_singleton.mp member]
    exact forward.refl _
  | wait delay positive seen rest ih =>
    rcases List.mem_cons.mp member with same | after
    · rw [same]
      exact onward.2.final forward
    · exact ih seen onward.2 after

theorem Onward.since_start (forward : Forward later) {course : Course σ α}
    (onward : course.Onward later start) (time : Nat) : later start (course.stateAt time) := by
  induction course generalizing start time with
  | done last value => exact onward
  | wait delay positive seen rest ih =>
    simp only [stateAt]
    split
    · exact forward.trans onward.1 (ih seen onward.2 (time - delay))
    · exact onward.1

theorem Onward.stateAt (forward : Forward later) {course : Course σ α}
    (onward : course.Onward later start) {first last : Nat} (ordered : first ≤ last) :
    later (course.stateAt first) (course.stateAt last) := by
  induction course generalizing start first last with
  | done last value => exact forward.refl _
  | wait delay positive seen rest ih =>
    -- The later time may be past this wait where the earlier one is not.
    by_cases passed : delay ≤ first
    · have both : delay ≤ last := by omega
      simp only [Course.stateAt, passed, both, ↓reduceIte]
      exact ih seen onward.2 (by omega)
    · simp only [Course.stateAt, passed, ↓reduceIte]
      split
      · exact onward.2.since_start forward (last - delay)
      · exact forward.refl seen

theorem Onward.keeps {invariant : σ → Prop} {course : Course σ α}
    (onward : course.Onward (fun a b => invariant a → invariant b) start)
    (inside : invariant start) : course.Keeps invariant fun _ => invariant := by
  induction course generalizing start with
  | done last value => exact onward inside
  | wait delay positive seen rest ih =>
    exact ⟨onward.1 inside, ih seen onward.2 (onward.1 inside)⟩

end ExampleProbes.Course

namespace ExampleProbes.Process
variable {σ α β : Type}

theorem bind_apply (p : Process σ α) (f : α → Process σ β) (state : σ) :
    (p >>= f) state = (p state).bind f := rfl

theorem pure_apply (value : α) (state : σ) :
    (Pure.pure value : Process σ α) state = .done state value := rfl

theorem bind_final (p : Process σ α) (f : α → Process σ β) (state : σ) :
    ((p >>= f) state).final = (f (p state).value (p state).final).final :=
  Course.bind_final f (p state)

theorem bind_value (p : Process σ α) (f : α → Process σ β) (state : σ) :
    ((p >>= f) state).value = (f (p state).value (p state).final).value :=
  Course.bind_value f (p state)

theorem bind_elapsed (p : Process σ α) (f : α → Process σ β) (state : σ) :
    ((p >>= f) state).elapsed = (p state).elapsed + (f (p state).value (p state).final).elapsed :=
  Course.bind_elapsed f (p state)

theorem bind_stateAt (p : Process σ α) (f : α → Process σ β) (state : σ) (time : Nat) :
    ((p >>= f) state).stateAt time =
      if (p state).elapsed ≤ time then
        (f (p state).value (p state).final).stateAt (time - (p state).elapsed)
      else (p state).stateAt time :=
  Course.bind_stateAt f (p state) time

theorem cut_elapsed (cleanup : σ → σ) (budget : Nat) (p : Process σ α) (state : σ) :
    (p.cut cleanup budget state).elapsed = min (p state).elapsed budget :=
  Course.cut_elapsed cleanup budget (p state)

@[simp] theorem sleep_final (delay : Nat) (state : σ) : (sleep delay state).final = state := by
  simp [sleep, Course.final]

@[simp] theorem sleep_elapsed (delay : Nat) (state : σ) :
    (sleep delay state).elapsed = Time.span delay := by
  rw [sleep, Course.pause_elapsed]
  rfl

theorem sleep_stateAt (delay : Nat) (state : σ) (time : Nat) :
    (sleep delay state).stateAt time = state := by
  rw [sleep, Course.pause_stateAt]
  split <;> rfl

@[simp] theorem pure_final (value : α) (state : σ) :
    ((Pure.pure value : Process σ α) state).final = state := rfl

@[simp] theorem pure_elapsed (value : α) (state : σ) :
    ((Pure.pure value : Process σ α) state).elapsed = 0 := rfl

@[simp] theorem pure_value (answer : α) (state : σ) :
    ((Pure.pure answer : Process σ α) state).value = answer := rfl

@[simp] theorem modify_final (change : σ → σ) (state : σ) :
    (modify change state).final = change state := rfl

/-- The process, given up when the limit has passed, if there is one. -/
def upTo (cleanup : σ → σ) (limit : Option Nat) (p : Process σ α) : Process σ (Option α) :=
  match limit with
  | none => p >>= fun value => Pure.pure (some value)
  | some budget => p.cut cleanup budget

theorem upTo_keeps {visible : σ → Prop} {ending : α → σ → Prop} {p : Process σ α} {state : σ}
    (keeps : (p state).Keeps visible ending) (cleanup : σ → σ) (limit : Option Nat) :
    (p.upTo cleanup limit state).Keeps visible fun
      | some value, last => ending value last
      | none, last => ∃ left, visible left ∧ last = cleanup left := by
  cases limit with
  | none => exact keeps.bind fun _ _ last => last
  | some budget => exact keeps.cut cleanup budget

def Advances (later : σ → σ → Prop) (p : Process σ α) : Prop :=
  ∀ state, (p state).Onward later state

variable {later : σ → σ → Prop} (forward : Course.Forward later)
include forward

theorem advances_pure (value : α) : Advances later (Pure.pure value : Process σ α) :=
  forward.refl

theorem advances_sleep (delay : Nat) : Advances later (sleep delay) := fun state =>
  .pause forward (forward.refl state) (forward.refl state)

theorem advances_bind {p : Process σ α} {f : α → Process σ β} (first : Advances later p)
    (next : ∀ value, Advances later (f value)) : Advances later (p >>= f) :=
  fun state => (first state).bind forward fun value last => next value last

theorem advances_upTo {p : Process σ α} (advances : Advances later p) {cleanup : σ → σ}
    (cleaned : ∀ state, later state (cleanup state)) (limit : Option Nat) :
    Advances later (p.upTo cleanup limit) := by
  cases limit with
  | none => exact advances_bind forward advances fun _ => advances_pure forward _
  | some budget => exact fun state => (advances state).cut forward cleaned budget

omit forward in
theorem advances_modify {change : σ → σ} (changed : ∀ state, later state (change state)) :
    Advances later (modify change) := changed

end ExampleProbes.Process
