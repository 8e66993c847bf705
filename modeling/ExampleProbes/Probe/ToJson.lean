import ExampleProbes.Json.Basic
import ExampleProbes.Probe.Annotations
import ExampleProbes.Probe.Observation
/-
Examples, probes, observations and annotations as JSON.
-/
namespace ExampleProbes

def Location.toJson (location : Location) : Json :=
  .object [("uri", .string location.uri), ("languageId", .string location.languageId),
    ("line", .nat location.line)]

def Signature.toJson (signature : Signature) : Json :=
  .object [("identifier", .string signature.identifier),
    ("parameters", .strings signature.parameters)]

def Example.fields (e : Example) : List (String × Json) :=
  [("name", .string e.name), ("location", e.location.toJson), ("signature", e.signature.toJson),
    ("arguments", .strings e.arguments)]

def Example.toJson (e : Example) : Json := .object e.fields

namespace Probe

def onlyField (only : Option String) : String × Json :=
  ("exampleFilter", .ofOption .string only)

def kind : Probe → String
  | .ofExample _ => "Example"
  | .statement .. => "Statement"
  | .expression .. => "StatementWithExpression"
  | .assertion .. => "Assertion"
  | .selection .. => "Selection"
  | .orphan _ => "Orphan"

def fields : Probe → List (String × Json)
  | .ofExample e => e.fields
  | .statement only trigger => [onlyField only, ("triggerLine", .nat trigger)]
  | .expression only trigger line source =>
    [onlyField only, ("triggerLine", .nat trigger), ("line", .nat line),
      ("expression", .string source)]
  | .assertion only trigger line source isExpectedValue =>
    [onlyField only, ("triggerLine", .nat trigger), ("line", .nat line),
      ("expression", .string source), ("isExpectedValue", .bool isExpectedValue)]
  | .selection trigger source => [("triggerLine", .nat trigger), ("expression", .string source)]
  | .orphan line => [("line", .nat line)]

def toJson (probe : Probe) : Json := .object (("kind", .string probe.kind) :: probe.fields)

end Probe

/-- A field that is left out where there is nothing to say. -/
def Json.given (name : String) (f : α → Json) : Option α → List (String × Json)
  | none => []
  | some a => [(name, f a)]

def Observation.toJson (o : Observation) : Json :=
  .object (
    [("expression", .string o.expression), ("displayString", .string o.display),
      ("interopProperties", .strings (o.traits.map Trait.name))] ++
    Json.given "metaQualifiedName" (fun t => .string t.qualified) o.typeName ++
    Json.given "metaSimpleName" (fun t => .string t.simple) o.typeName ++
    Json.given "memberNames" (fun ms => .strings (ms.map Prod.fst)) o.members ++
    Json.given "memberDisplayStrings" (fun ms => .strings (ms.map Prod.snd)) o.members ++
    Json.given "elements" .strings o.elements ++
    Json.given "error" .string o.error)

def Annotations.toJson (uri languageId : String) (found : Annotations) : Json :=
  .object [("uri", .string uri), ("languageId", .string languageId),
    ("examples", .array (found.examples.map Example.toJson)),
    ("probes", .array (found.probes.map Probe.toJson)),
    ("halt", .ofOption (fun halt => .string halt.message) found.halt)]

end ExampleProbes
