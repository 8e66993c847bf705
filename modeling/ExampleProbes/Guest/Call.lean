import ExampleProbes.Guest.Value
import ExampleProbes.Source.Document
/-
A call of an interpreter, with all that it is asked.
-/
namespace ExampleProbes

inductive Call where
  | load (document : Document)
  | lookup (languageId identifier : String)
  | evaluate (languageId source name : String)
  /-- `number` is the hook that was attached, if one could be. -/
  | attach (uri : String) (line : Nat) (number : Option Nat)
  | invoke (function : Value) (arguments : List Value)
  | live (expression : String)
  | detach (number : Nat)

end ExampleProbes
