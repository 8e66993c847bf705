import ExampleProbes.Text.Space
import ExampleProbes.Probe.Basic
/-
The examples and probes that the annotation lines of a document declare. An example belongs
to the signature on the next line that declares no example; a probe or assertion belongs to
its trigger line, the next line that holds something other than probes, assertions and
white space. Reading stops at the first line that cannot be read; what was found before it
is kept.
-/
namespace ExampleProbes

inductive Halt where
  | malformedTag (line : Nat) (error : TagError)
  | missingSignature (line : Nat)
  | missingTrigger (line : Nat)
  deriving DecidableEq, Repr

namespace Halt

def line : Halt → Nat
  | .malformedTag line _ => line
  | .missingSignature line => line
  | .missingTrigger line => line

def reason : Halt → String
  | .malformedTag _ error => error.message
  | .missingSignature _ => "no function signature follows the example"
  | .missingTrigger _ => "no statement follows the annotation"

def message (halt : Halt) : String := "line " ++ toString halt.line ++ ": " ++ halt.reason

end Halt

inductive Finding where
  | example (e : Example)
  | probe (p : Probe)
  | nothing
  deriving DecidableEq, Repr

/-- What ends the reading of lines: a line that cannot be read, or a place that is refused. -/
inductive Stop where
  | halt (halt : Halt)
  | misuse (misuse : LineMisuse)
  deriving DecidableEq, Repr

structure Annotations where
  examples : List Example := []
  probes : List Probe := []
  halt : Option Halt := none
  misuse : Option LineMisuse := none
  deriving DecidableEq, Repr

namespace Annotations

def isTrigger (line : List Char) : Bool :=
  !Text.isBlank line && !Marker.probe.isOn line && !Marker.assertion.isOn line

/-- The number of the first trigger line among lines that are numbered from `number`. -/
def triggerFrom? (number : Nat) : List (List Char) → Option Nat
  | [] => none
  | line :: rest => if isTrigger line then some number else triggerFrom? (nextLine number) rest

def signature? : List (List Char) → Option Signature
  | [] => none
  | line :: rest => if Marker.example.isOn line then signature? rest else Signature.find? line

def tagAt (number : Nat) (marker : Marker) (line : List Char) : Except Stop Tag :=
  match Tag.read marker line with
  | .ok tag => .ok tag
  | .error error => .error (.halt (.malformedTag number error))

def triggerAt (number : Nat) (rest : List (List Char)) : Except Stop Nat :=
  match triggerFrom? (nextLine number) rest with
  | some trigger => .ok trigger
  | none => .error (.halt (.missingTrigger number))

def signatureAt (number : Nat) (rest : List (List Char)) : Except Stop Signature :=
  match signature? rest with
  | some signature => .ok signature
  | none => .error (.halt (.missingSignature number))

def placeAt (uri languageId : String) (number : Nat) : Except Stop Location :=
  match Location.of? uri languageId number with
  | .ok location => .ok location
  | .error misuse => .error (.misuse misuse)

theorem placeAt_of_le {number : Nat} (numbered : 1 ≤ number) (uri languageId : String) :
    placeAt uri languageId number = .ok ⟨uri, languageId, number⟩ := by
  simp [placeAt, Location.of?_of_le numbered]

def exampleFinding (tag : Tag) (location : Location) (signature : Signature) : Finding :=
  match Example.bind? tag location signature with
  | some e => .example e
  | none => .nothing

def probeFinding (tag : Tag) (number trigger : Nat) : Finding :=
  match tag.attribute? ":expression" with
  | some source => .probe (.expression (tag.attribute? ":example") trigger number source)
  | none => .probe (.statement (tag.attribute? ":example") trigger)

/-- An expected value is shown at its trigger line, a condition where it is written. -/
def assertionFinding (tag : Tag) (number trigger : Nat) : Finding :=
  match tag.attribute? ":expected" with
  | some source => .probe (.assertion (tag.attribute? ":example") trigger trigger source true)
  | none =>
    match tag.attribute? ":expression" with
    | some source => .probe (.assertion (tag.attribute? ":example") trigger number source false)
    | none => .nothing

/-- What line `number` declares; `rest` are the lines after it. -/
def finding (uri languageId : String) (number : Nat) (line : List Char)
    (rest : List (List Char)) : Except Stop Finding :=
  if Marker.example.isOn line then do
    let tag ← tagAt number .example line
    let signature ← signatureAt number rest
    let place ← placeAt uri languageId number
    return exampleFinding tag place signature
  else if Marker.probe.isOn line then do
    let tag ← tagAt number .probe line
    let trigger ← triggerAt number rest
    return probeFinding tag number trigger
  else if Marker.assertion.isOn line then do
    let tag ← tagAt number .assertion line
    let trigger ← triggerAt number rest
    return assertionFinding tag number trigger
  else return .nothing

def add (finding : Finding) (later : Annotations) : Annotations :=
  match finding with
  | .example e => { later with examples := e :: later.examples }
  | .probe p => { later with probes := p :: later.probes }
  | .nothing => later

def ofLinesFrom (uri languageId : String) (number : Nat) : List (List Char) → Annotations
  | [] => {}
  | line :: rest =>
    match finding uri languageId number line rest with
    | .error (.halt halt) => { halt := some halt }
    | .error (.misuse misuse) => { misuse := some misuse }
    | .ok found => add found (ofLinesFrom uri languageId (nextLine number) rest)

def ofLines (uri languageId : String) (lines : List (List Char)) : Annotations :=
  ofLinesFrom uri languageId 1 lines

def ofDocument (document : Document) : Annotations :=
  ofLines document.uri document.languageId document.lines

end Annotations
end ExampleProbes
