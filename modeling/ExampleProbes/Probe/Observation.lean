import ExampleProbes.Guest.Value
/-
The record made of one value: its display text and traits, and where the value answers
them its type name, readable members and elements. Making one never fails: at the first
question the value refuses, the record keeps only the display text, if there is one, and
what the fault says.
-/
namespace ExampleProbes

structure Observation where
  expression : String
  display : String
  traits : List Trait := []
  typeName : Option TypeName := none
  members : Option (List (String × String)) := none
  elements : Option (List String) := none
  error : Option String := none
  deriving DecidableEq, Repr

namespace Observation

def refused (expression display message : String) : Observation where
  expression := expression
  display := display
  error := some message

def ofFault (expression : String) (fault : Fault) : Observation :=
  refused expression fault.message fault.message

/-- The readable members in the order of `names`, each with its display text. -/
def readMembers (value : Value) : List String → Except Fault (List (String × String))
  | [] => .ok []
  | name :: rest =>
    if value.isReadable name then do
      let member ← value.member name
      let text ← member.display
      let more ← readMembers value rest
      return (name, text) :: more
    else readMembers value rest

def readDisplays : List Value → Except Fault (List String)
  | [] => .ok []
  | value :: rest => do
    let text ← value.display
    let more ← readDisplays rest
    return text :: more

def membersOf (value : Value) : Except Fault (Option (List (String × String))) := do
  match ← value.memberNames with
  | none => return none
  | some names => return some (← readMembers value names)

def elementsOf (value : Value) : Except Fault (Option (List String)) := do
  match ← value.elements with
  | none => return none
  | some values => return some (← readDisplays values)

/-- Everything but the display text, in the order in which it is asked for. -/
def sections (expression display : String) (error : Option String) (value : Value) :
    Except Fault Observation := do
  let typeName ← value.typeName
  let members ← membersOf value
  let elements ← elementsOf value
  return {
    expression, display, traits := value.traits, typeName, members, elements, error }

/-- Shown as the display text of a value that has none. -/
def undisplayed : String := "displayStringError"

def describe (expression : String) (value : Value) (error : Option String) : Observation :=
  match value.display with
  | .error fault => refused expression undisplayed fault.message
  | .ok display =>
    match sections expression display error value with
    | .error fault => refused expression display fault.message
    | .ok observation => observation

def ofOutcome (expression : String) : Outcome → Observation
  | .ok value => describe expression value none
  | .error fault => ofFault expression fault

end Observation
end ExampleProbes
