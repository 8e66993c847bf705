import ExampleProbes.Probe.ToJson
import ExampleProbes.Source.DriveLetter
import ExampleProbes.Files.Input
import ExampleProbes.Command.Failure
import ExampleProbes.Terminal.Options
/-
What the program prints, and its exit code: 0 for an answer, 1 for a failure that is told
as an error, 2 for a command line that cannot be understood.
-/
namespace ExampleProbes.Terminal

structure Response where
  code : UInt32 := 0
  out : String := ""
  err : String := ""
  deriving DecidableEq, Repr

inductive Refusal where
  | input (fault : InputFault)
  | command (failure : Failure)
  deriving DecidableEq, Repr

def Refusal.message : Refusal → String
  | .input fault => fault.message
  | .command failure => failure.message

namespace Response

def line (text : String) : Response := { out := text ++ "\n" }

def refused (refusal : Refusal) : Response :=
  { code := 1, err := "Error: " ++ refusal.message ++ "\n" }

def usage : String :=
  "usage: liveprobe [--config FILE] (scan [--language ID] FILE | config | normalize-uri URI)\n"

def version : String := "liveprobe-cli 0.1.0\n"

def stopped : Stop → Response
  | .misuse => { code := 2, err := usage }
  | .help => { out := usage }
  | .version => { out := version }

end Response

/-- A directory can be opened, but not read. -/
def settingsOf (bytes : Except FileFault (List UInt8)) : Except Failure Settings :=
  match bytes with
  | .ok bytes => Settings.ofFile bytes
  | .error .isDirectory => .error (.settings (.fileRead .isDirectory))
  | .error fault => .error (.settings (.fileOpen fault))

def settingsFor (files : String → FileContent) : Option String → Except Failure Settings
  | none => .ok {}
  | some path => settingsOf (files path).bytes

def effectiveSettings (files : String → FileContent) (path : Option String) :
    Except Failure Settings := do
  let settings ← settingsFor files path
  settings.valid
  return settings

def scanText (document : Document) : String :=
  ((Annotations.ofDocument document).toJson document.uri document.languageId).pretty

/-- The text that a request asks for, where `files` tells what each file holds. -/
def Request.answer (files : String → FileContent) : Request → Except Refusal String
  | .scan path language =>
    ((Document.ofFile path language (files path)).mapError .input).map scanText
  | .config path =>
    ((effectiveSettings files path).mapError .command).map fun settings =>
      settings.toJson.pretty
  | .normalizeUri uri => .ok (normalUri uri)

def respond (files : String → FileContent) : Except Stop Request → Response
  | .error stop => .stopped stop
  | .ok request =>
    match request.answer files with
    | .ok text => .line text
    | .error refusal => .refused refusal

end ExampleProbes.Terminal
