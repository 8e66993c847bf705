import ExampleProbes.Markup.Tag
import ExampleProbes.Source.Signature
import ExampleProbes.Source.Document
/-
Examples and probes. An example is one call of a function with concrete arguments; a probe
is a point of interest, with the line at which it is triggered, the line at which it is
shown, and for some kinds the name of the one example during which it records.
-/
namespace ExampleProbes

structure Example where
  name : String
  location : Location
  signature : Signature
  arguments : List String
  deriving DecidableEq, Repr

namespace Example

def argumentsOf? (tag : Tag) : List String → Option (List String)
  | [] => some []
  | parameter :: rest =>
    (tag.attribute? parameter).bind fun argument =>
      (argumentsOf? tag rest).map (argument :: ·)

/-- None where the tag leaves a parameter without an argument. A tag that gives no name is
   its own name. -/
def bind? (tag : Tag) (location : Location) (signature : Signature) : Option Example :=
  (argumentsOf? tag signature.parameters).map fun arguments =>
    ⟨(tag.attribute? ":name").getD tag.raw, location, signature, arguments⟩

def invocation (e : Example) : String :=
  e.signature.identifier ++ "(" ++ String.intercalate ", " e.arguments ++ ")"

end Example

inductive ProbeType where
  | example
  | probe
  | assertion
  | orphan
  | selection
  deriving DecidableEq, Repr

def ProbeType.name : ProbeType → String
  | .example => "EXAMPLE"
  | .probe => "PROBE"
  | .assertion => "ASSERTION"
  | .orphan => "ORPHAN"
  | .selection => "SELECTION"

/-- `only` names the example that a probe is for, where it is not for all of them. -/
inductive Probe where
  | ofExample (e : Example)
  | statement (only : Option String) (triggerLine : Nat)
  | expression (only : Option String) (triggerLine line : Nat) (source : String)
  | assertion (only : Option String) (triggerLine line : Nat) (source : String)
      (isExpectedValue : Bool)
  | selection (triggerLine : Nat) (source : String)
  | orphan (line : Nat)
  deriving DecidableEq, Repr

namespace Probe

def type : Probe → ProbeType
  | .ofExample _ => .example
  | .statement .. => .probe
  | .expression .. => .probe
  | .assertion .. => .assertion
  | .selection .. => .selection
  | .orphan _ => .orphan

def only? : Probe → Option String
  | .statement only _ => only
  | .expression only .. => only
  | .assertion only .. => only
  | _ => none

/-- Whether the probe records while the example called `name` runs. -/
def appliesTo (probe : Probe) (name : String) : Bool :=
  match probe with
  | .ofExample e => e.name == name
  | _ => match probe.only? with
    | none => true
    | some only => only == name

def triggerLine : Probe → Nat
  | .ofExample e => e.location.line
  | .statement _ trigger => trigger
  | .expression _ trigger .. => trigger
  | .assertion _ trigger .. => trigger
  | .selection trigger _ => trigger
  | .orphan line => line

def reportLine : Probe → Nat
  | .ofExample e => e.location.line
  | .statement _ trigger => trigger
  | .expression _ _ line _ => line
  | .assertion _ _ line .. => line
  | .selection trigger _ => trigger
  | .orphan line => line

def isOrphan : Probe → Bool
  | .orphan _ => true
  | _ => false

end Probe
end ExampleProbes
