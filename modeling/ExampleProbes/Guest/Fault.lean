/-
What an interpreter may refuse or raise, and how each is worded.
-/
namespace ExampleProbes

inductive Fault where
  | unknownIdentifier (name : String)
  | notExecutable (name : String)
  | arity (expected actual : Nat)
  | unsupportedType (name : String)
  | unsupportedMessage (name : String)
  | exception (text : String)
  | parse (text : String)
  | internal (text : String)
  deriving DecidableEq, Repr

/-- An exception speaks for itself; every other fault says first what kind it is. -/
def Fault.message : Fault → String
  | .unknownIdentifier name => "Unknown identifier: " ++ name
  | .notExecutable name => "Not executable: " ++ name
  | .arity expected actual =>
    "Arity mismatch: expected " ++ toString expected ++ " argument(s), got " ++ toString actual
  | .unsupportedType name => "Unsupported type: " ++ name
  | .unsupportedMessage name => "Unsupported message: " ++ name
  | .exception text => text
  | .parse text => "Parse error: " ++ text
  | .internal text => "Runtime error: " ++ text

end ExampleProbes
