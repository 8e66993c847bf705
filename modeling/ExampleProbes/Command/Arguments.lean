import ExampleProbes.Source.Document
import ExampleProbes.Source.DriveLetter
import ExampleProbes.Command.Failure
/-
The arguments of the commands, by position. An analysis names a document and may name a
selection in it, by its line, counted from 0, and its text; a display names a document and
a text.
-/
namespace ExampleProbes

structure Selection where
  line : Nat
  text : String
  deriving DecidableEq, Repr

/-- The line of the selection, counted from 1. -/
def Selection.probeLine (selection : Selection) : Nat := nextLine selection.line

def textAt (position : Nat) (argument : Json) : Except Failure String :=
  match argument with
  | .string text => .ok text
  | other => .error (.invalidArguments (.notText position other.compact))

def lineAt (position : Nat) (argument : Json) : Except Failure Nat :=
  match argument with
  | .int (.ofNat line) =>
    if line ≤ maxLine then .ok line
    else .error (.invalidArguments (.notLine position (Json.int line).compact))
  | other => .error (.invalidArguments (.notLine position other.compact))

structure AnalysisArguments where
  uri : String
  selection : Option Selection := none
  deriving DecidableEq, Repr

def AnalysisArguments.of : List Json → Except Failure AnalysisArguments
  | [uri] => do
    return { uri := ← textAt 0 uri }
  | [uri, line, text] => do
    let uri ← textAt 0 uri
    let line ← lineAt 1 line
    let text ← textAt 2 text
    return { uri, selection := some ⟨line, text⟩ }
  | arguments => .error (.invalidArguments (.count "1 or 3" arguments.length))

structure DisplayArguments where
  uri : String
  text : String
  deriving DecidableEq, Repr

def DisplayArguments.of : List Json → Except Failure DisplayArguments
  | [uri, text] => do
    let uri ← textAt 0 uri
    let text ← textAt 1 text
    return ⟨uri, text⟩
  | arguments => .error (.invalidArguments (.count "2" arguments.length))

/-- The open document that an address names. -/
def openDocument? (documents : List Document) (uri : String) : Option Document :=
  documents.find? fun document => sameDocument document.uri uri

end ExampleProbes
