import ExampleProbes.Text.Percent
import ExampleProbes.Source.Document
import ExampleProbes.Files.Fault
import ExampleProbes.Files.Path
/-
A file as a document: its language, told by the ending of its name unless it is given, and
its address, which is that of its absolute path.
-/
namespace ExampleProbes

inductive InputFault where
  | file (fault : FileFault)
  | unknownLanguage (path : String)
  | noAddress (path : String)
  deriving DecidableEq, Repr

def InputFault.message : InputFault → String
  | .file fault => "IO error: " ++ fault.message
  | .unknownLanguage path => "Cannot determine the language of " ++ path ++ "; pass --language"
  | .noAddress path => "Cannot express " ++ path ++ " as a file URI"

/-- Endings, in small letters, and the languages they stand for. -/
def languageEndings : List (String × String) :=
  [("js", "js"), ("mjs", "js"), ("cjs", "js"), ("py", "python"), ("rb", "ruby"), ("r", "R"),
    ("sl", "sl"), ("ts", "typescript")]

def languageFor (path : String) : Option String :=
  ((Path.name? path).bind Path.extension?).bind fun ending =>
    languageEndings.lookup (String.ofList (ending.map Char.toLower))

def segmentText (segment : List Char) : String :=
  "/" ++ Text.encodeSegment (String.ofList segment)

def fileUri (path : String) : Except InputFault String :=
  if Path.isAbsolute path then
    match Path.segments path with
    | [] => .ok "file:///"
    | segments => .ok ("file://" ++ String.join (segments.map segmentText))
  else .error (.noAddress path)

/-- What was read of a file, and the absolute path under which it was found. -/
structure FileContent where
  bytes : Except FileFault (List UInt8)
  absolute : Except FileFault String

def textOfBytes (bytes : List UInt8) : Except FileFault String :=
  match String.fromUTF8? ⟨bytes.toArray⟩ with
  | some text => .ok text
  | none => .error .notText

/-- The text comes first, then the language, then the address. -/
def Document.ofFile (path : String) (language : Option String) (content : FileContent) :
    Except InputFault Document := do
  let text ← (content.bytes.bind textOfBytes).mapError .file
  let languageId ← match language with
    | some given => .ok given
    | none => match languageFor path with
      | some told => .ok told
      | none => .error (.unknownLanguage path)
  let absolute ← content.absolute.mapError .file
  return { uri := ← fileUri absolute, languageId, text }

end ExampleProbes
