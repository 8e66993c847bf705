import ExampleProbes.Markup.Marker
import ExampleProbes.Markup.Reference
import ExampleProbes.Markup.Element
/-
The tag on an annotation line: the text from a marker to the last closing bracket of the
line, read as one element, its references decoded and its attribute names unique.
-/
namespace ExampleProbes

inductive Malformation where
  | noElement (raw : String)
  | trailingText
  | otherName (name : String)
  deriving DecidableEq, Repr

inductive TagError where
  | missingMarker (marker : Marker)
  | unterminated (marker : Marker)
  | malformed (marker : Marker) (reason : Malformation)
  | duplicateAttribute (name : String)
  | invalidReference (name : String)
  deriving DecidableEq, Repr

structure Tag where
  marker : Marker
  attributes : List (String × String)
  raw : String
  deriving DecidableEq, Repr

def Malformation.message : Malformation → String
  | .noElement raw => "expected element at `" ++ raw ++ "`"
  | .trailingText => "syntax error"
  | .otherName name => "unexpected element <" ++ name ++ ">"

def TagError.message : TagError → String
  | .missingMarker marker => "No <" ++ marker.name ++ "> marker on line"
  | .unterminated marker => "Unterminated <" ++ marker.name ++ "> tag"
  | .malformed marker reason => "Malformed <" ++ marker.name ++ "> tag: " ++ reason.message
  | .duplicateAttribute name => "Duplicate attribute `" ++ name ++ "`"
  | .invalidReference name => "Invalid entity in attribute `" ++ name ++ "`"

namespace Tag

def attribute? (tag : Tag) (name : String) : Option String := tag.attributes.lookup name

/-- The text up to and including its last closing bracket. -/
def upToLastClose? : List Char → Option (List Char)
  | [] => none
  | c :: rest =>
    match upToLastClose? rest with
    | some kept => some (c :: kept)
    | none => if c = '>' then some [c] else none

/-- Decodes the attributes from the left; `seen` are those already accepted. -/
def decodeFrom (seen : List (String × String)) :
    List (List Char × List Char) → Except TagError (List (String × String))
  | [] => .ok seen
  | (name, value) :: rest =>
    let name := String.ofList name
    match Reference.decode value with
    | none => .error (.invalidReference name)
    | some value =>
      if (seen.lookup name).isSome then .error (.duplicateAttribute name)
      else decodeFrom (seen ++ [(name, String.ofList value)]) rest

def ofElement (marker : Marker) (raw : List Char) : Except TagError Tag :=
  match Element.read? raw with
  | none => .error (.malformed marker (.noElement (String.ofList raw)))
  | some (_, _ :: _) => .error (.malformed marker .trailingText)
  | some (element, []) =>
    if String.ofList element.name = marker.name then
      (decodeFrom [] element.attributes).map fun attributes =>
        ⟨marker, attributes, String.ofList raw⟩
    else .error (.malformed marker (.otherName (String.ofList element.name)))

def read (marker : Marker) (line : List Char) : Except TagError Tag :=
  match marker.split? line with
  | none => .error (.missingMarker marker)
  | some (_, tail) =>
    match upToLastClose? tail with
    | none => .error (.unterminated marker)
    | some raw => ofElement marker raw

end Tag
end ExampleProbes
