import ExampleProbes.Guest.Fault
/-
Values of the interpreter, known by the answers they give. Only the display text is always
asked for; every other question has a standing answer for values that do not support it.
-/
namespace ExampleProbes

/-- The tags a value may carry, in the order in which they are shown. -/
inductive Trait where
  | boolean
  | date
  | duration
  | exception
  | instant
  | metaObject
  | null
  | number
  | pointer
  | string
  | time
  | timezone
  | executable
  | instantiable
  deriving DecidableEq, Repr

namespace Trait

def all : List Trait :=
  [.boolean, .date, .duration, .exception, .instant, .metaObject, .null, .number, .pointer,
    .string, .time, .timezone, .executable, .instantiable]

def name : Trait → String
  | .boolean => "boolean"
  | .date => "date"
  | .duration => "duration"
  | .exception => "exception"
  | .instant => "instant"
  | .metaObject => "metaObject"
  | .null => "null"
  | .number => "number"
  | .pointer => "pointer"
  | .string => "string"
  | .time => "time"
  | .timezone => "timezone"
  | .executable => "executable"
  | .instantiable => "instantiable"

/-- The traits two values must share to be compared by their display texts. -/
def primitives : List Trait := [.boolean, .null, .number, .string]

theorem mem_all (t : Trait) : t ∈ all := by cases t <;> decide

end Trait

structure TypeName where
  qualified : String
  simple : String
  deriving DecidableEq, Repr

structure Value where
  display : Except Fault String
  has : Trait → Bool := fun _ => false
  truth : Except Fault Bool := .error (.unsupportedMessage "asBoolean")
  typeName : Except Fault (Option TypeName) := .ok none
  memberNames : Except Fault (Option (List String)) := .ok none
  isReadable : String → Bool := fun _ => false
  member : String → Except Fault Value := fun name => .error (.unknownIdentifier name)
  elements : Except Fault (Option (List Value)) := .ok none

abbrev Outcome := Except Fault Value

namespace Value

def ofBool (b : Bool) : Value where
  display := .ok (if b then "true" else "false")
  has t := t == .boolean
  truth := .ok b

def ofText (text : String) : Value where
  display := .ok text
  has t := t == .string

def traits (value : Value) : List Trait := Trait.all.filter value.has

/-- Equal values carry the same primitive traits and display, to the same text. -/
def same (a b : Value) : Bool :=
  Trait.primitives.all (fun t => a.has t == b.has t) &&
    match a.display, b.display with
    | .ok left, .ok right => left == right
    | _, _ => false

/-- The display text, or what the fault says where there is none. -/
def shown (value : Value) : String :=
  match value.display with
  | .ok text => text
  | .error fault => fault.message

/-- The display text of a value, empty for a value that has none. -/
def label (value : Value) : String :=
  match value.display with
  | .ok text => text
  | .error _ => ""

def holds (value : Value) : Bool :=
  value.has .boolean && match value.truth with
    | .ok b => b
    | .error _ => false

end Value
end ExampleProbes
