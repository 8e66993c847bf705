/-
JSON values. An object keeps its fields in the order given; `sorted` is the order of a
value that was read: by key, where of several fields with one key the last one counts.
-/
namespace ExampleProbes

inductive Json where
  | null
  | bool (b : Bool)
  | int (n : Int)
  | float (x : Float)
  | string (text : String)
  | array (items : List Json)
  | object (fields : List (String × Json))

namespace Json

instance : Inhabited Json := ⟨.null⟩

def nat (n : Nat) : Json := .int n

def ofOption (f : α → Json) : Option α → Json
  | none => .null
  | some a => f a

def strings (texts : List String) : Json := .array (texts.map .string)

def field? (name : String) : Json → Option Json
  | .object fields => fields.lookup name
  | _ => none

def text? : Json → Option String
  | .string text => some text
  | _ => none

/-- Code points compare as the bytes of their UTF-8 forms do. -/
def keyLt (a b : String) : Bool := decide (a.toList < b.toList)

def insertField (name : String) (value : Json) : List (String × Json) → List (String × Json)
  | [] => [(name, value)]
  | (key, old) :: rest =>
    if key = name then (name, value) :: rest
    else if keyLt name key then (name, value) :: (key, old) :: rest
    else (key, old) :: insertField name value rest

def sorted (fields : List (String × Json)) : List (String × Json) :=
  fields.foldl (fun kept (name, value) => insertField name value kept) []

end Json
end ExampleProbes
