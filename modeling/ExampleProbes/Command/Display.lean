import ExampleProbes.Command.Arguments
import ExampleProbes.Probe.ToJson
import ExampleProbes.Run.Examples
/-
The value of a text that is evaluated on its own, in the language of an open document.
Every failure is told as an observation without a display text.
-/
namespace ExampleProbes.Display

def sourceName : String := "<display expression>"

def tooLong : String := "Expression took too long to run."

def failed (text message : String) : Observation := .refused text "" message

/-- The text that an answer to unusable arguments can still name. -/
def givenText : List Json → String
  | _ :: .string text :: _ => text
  | _ => ""

def describe (text : String) : Option Outcome → Observation
  | none => failed text tooLong
  | some (.error fault) => failed text fault.message
  | some (.ok value) => .describe text value none

def run (interpreter : Interpreter) (settings : Settings) (documents : List Document)
    (arguments : List Json) : Process Machine Observation :=
  match DisplayArguments.of arguments with
  | .error failure => return failed (givenText arguments) failure.message
  | .ok asked =>
    match openDocument? documents asked.uri with
    | none => return failed asked.text (Failure.documentNotOpen asked.uri).message
    | some document => do
      let evaluation := Run.evaluate interpreter document.languageId asked.text sourceName
      return describe asked.text (← evaluation.cut id settings.displayTimeout)

end ExampleProbes.Display
