import ExampleProbes.Guest.Fault
import ExampleProbes.Files.Fault
import ExampleProbes.Command.SettingsReader
/-
What ends a command as a whole. Faults of a single example or probe are not among them:
those become observations.
-/
namespace ExampleProbes

inductive ArgumentFault where
  | count (expected : String) (got : Nat)
  | notText (position : Nat) (got : String)
  | notLine (position : Nat) (got : String)
  deriving DecidableEq, Repr

def ArgumentFault.message : ArgumentFault → String
  | .count expected got => "expected " ++ expected ++ " arguments, got " ++ toString got
  | .notText position got =>
    "argument " ++ toString position ++ " must be a string, got " ++ got
  | .notLine position got =>
    "argument " ++ toString position ++ " must be a non-negative line number, got " ++ got

inductive SettingsFault where
  | invalid (reason : Settings.Invalid)
  | text (error : Json.ReadError)
  | fileText (error : Json.ReadError)
  | fileRead (fault : FileFault)
  | fileOpen (fault : FileFault)
  deriving DecidableEq, Repr

def SettingsFault.message : SettingsFault → String
  | .invalid reason => reason.message
  | .text error => "Failed to parse config: " ++ error.message
  | .fileText error => "Failed to parse config file: " ++ error.message
  | .fileRead fault => "Failed to parse config file: " ++ fault.message
  | .fileOpen fault => "Failed to open config file: " ++ fault.message

inductive Failure where
  | invalidArguments (fault : ArgumentFault)
  | documentNotOpen (uri : String)
  | documentLoad (uri : String) (fault : Fault)
  | timeout (budget : Nat)
  | settings (fault : SettingsFault)
  deriving DecidableEq, Repr

def Failure.message : Failure → String
  | .invalidArguments fault => "Invalid arguments: " ++ fault.message
  | .documentNotOpen uri => "Document is not open: " ++ uri
  | .documentLoad uri fault => "Failed to load " ++ uri ++ ": " ++ fault.message
  | .timeout budget => "Analysis timed out after " ++ toString budget ++ " ms"
  | .settings fault => "Configuration error: " ++ fault.message

namespace Settings

def valid (settings : Settings) : Except Failure Unit :=
  match settings.validate with
  | .ok () => .ok ()
  | .error reason => .error (.settings (.invalid reason))

def ofText (text : String) : Except Failure Settings :=
  match read .text text.toUTF8.data.toList with
  | .ok settings => .ok settings
  | .error error => .error (.settings (.text error))

/-- The settings that the bytes of a file hold. -/
def ofFile (bytes : List UInt8) : Except Failure Settings :=
  match read .stream bytes with
  | .ok settings => .ok settings
  | .error error => .error (.settings (.fileText error))

end Settings
end ExampleProbes
