import ExampleProbes.Probe.Evaluation
/-
What an analysis asks of an interpreter, as the answers it gives and how many milliseconds
it takes to give them. An interpreter has a state, which the calls it has heard have
brought about; so every answer depends on the calls made earlier, from the first on.
-/
namespace ExampleProbes

structure Delayed (α : Type) where
  delay : Nat := 0
  value : α

structure Site where
  uri : String
  line : Nat
  deriving DecidableEq, Repr

/-- A statement ends `delay` after the one before it, and the hooks at `site` hear of it. -/
structure Event where
  delay : Nat
  site : Site
  firing : Firing

/-- What happens during one call: its events, and its outcome `delay` after the last. -/
structure Invocation where
  events : List Event
  delay : Nat
  outcome : Outcome

structure Interpreter where
  load : (earlier : List Call) → (document : Document) → Delayed (Except Fault Unit)
  lookup : (earlier : List Call) → (languageId identifier : String) →
    Except Fault (Option Value)
  evaluate : (earlier : List Call) → (languageId source name : String) → Delayed Outcome
  /-- The statement line that a hook for a line goes to. -/
  snap : (earlier : List Call) → (uri : String) → (line : Nat) → Except Fault Nat
  invoke : (earlier : List Call) → (function : Value) → (arguments : List Value) → Invocation

end ExampleProbes
