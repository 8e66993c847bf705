import ExampleProbes.Time.Span
/-
The course that something takes over time: it changes its state at once or lets the clock
run, and ends with a value. While the clock runs the state can be seen and even be changed
from outside; what comes after the wait finds it as it then is. The course that is taken
when nobody touches the state is the undisturbed one.
-/
namespace ExampleProbes

inductive Course (σ α : Type) where
  | done (state : σ) (value : α)
  | wait (delay : Nat) (positive : 0 < delay) (state : σ) (rest : σ → Course σ α)

namespace Course
variable {σ τ α β : Type}

def bind (f : α → σ → Course σ β) : Course σ α → Course σ β
  | .done state value => f value state
  | .wait delay positive state rest => .wait delay positive state fun now => (rest now).bind f

/-- Lets the clock run, unless it is for no time at all. -/
def pause (delay : Nat) (state : σ) (rest : σ → Course σ α) : Course σ α :=
  if positive : 0 < delay then .wait delay positive state rest else rest state

/-- How long the undisturbed course takes. -/
def elapsed : Course σ α → Nat
  | .done _ _ => 0
  | .wait delay _ state rest => delay + (rest state).elapsed

/-- The state in which the undisturbed course ends. -/
def final : Course σ α → σ
  | .done state _ => state
  | .wait _ _ state rest => (rest state).final

/-- The value with which the undisturbed course ends. -/
def value : Course σ α → α
  | .done _ value => value
  | .wait _ _ state rest => (rest state).value

/-- The course as that of a part of a larger state. -/
def within (part : τ → σ) (put : σ → τ → τ) : Course σ α → τ → Course τ α
  | .done state value, whole => .done (put state whole) value
  | .wait delay positive state rest, whole =>
    .wait delay positive (put state whole) fun now => (rest (part now)).within part put now

/-- Gives up what would still wait when `budget` has passed; what was given up leaves the
   state that `cleanup` makes of the one it stood in. -/
def cut (cleanup : σ → σ) : (budget : Nat) → Course σ α → Course σ (Option α)
  | _, .done state value => .done state (some value)
  | budget, .wait delay positive state rest =>
    if delay ≤ budget then
      .wait delay positive state fun now => (rest now).cut cleanup (budget - delay)
    else .pause budget state fun now => .done (cleanup now) none

end Course

/-- Something that takes a course from every state. -/
def Process (σ α : Type) : Type := σ → Course σ α

namespace Process
variable {σ τ α β : Type}

def pure (value : α) : Process σ α := fun state => .done state value

def bind (p : Process σ α) (f : α → Process σ β) : Process σ β := fun state => (p state).bind f

instance : Monad (Process σ) where
  pure := pure
  bind := bind

def get : Process σ σ := fun state => .done state state

def modify (change : σ → σ) : Process σ Unit := fun state => .done (change state) ()

def sleep (delay : Nat) : Process σ Unit := fun state =>
  .pause (Time.span delay) state fun now => .done now ()

def within (part : τ → σ) (put : σ → τ → τ) (p : Process σ α) : Process τ α :=
  fun whole => (p (part whole)).within part put whole

def cut (cleanup : σ → σ) (budget : Nat) (p : Process σ α) : Process σ (Option α) :=
  fun state => (p state).cut cleanup budget

end Process
end ExampleProbes
