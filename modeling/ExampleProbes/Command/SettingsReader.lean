import ExampleProbes.Json.Read
import ExampleProbes.Text.Quoted
import ExampleProbes.Command.Settings
/-
Settings read from JSON text: an object of named fields, each at most once, or an array of
the fields in their order. Fields left out keep their standing values; unknown names are
passed over.
-/
namespace ExampleProbes.Settings
open Json

structure Draft where
  timeout : Option Nat := none
  initialPushDelay : Option Nat := none
  pushInterval : Option Nat := none
  displayTimeout : Option Nat := none
  notificationMethod : Option String := none
  deriving DecidableEq, Repr

namespace Draft

def has (draft : Draft) : Field → Bool
  | .timeout => draft.timeout.isSome
  | .initialPushDelay => draft.initialPushDelay.isSome
  | .pushInterval => draft.pushInterval.isSome
  | .displayTimeout => draft.displayTimeout.isSome
  | .notificationMethod => draft.notificationMethod.isSome

def complete (draft : Draft) : Settings :=
  let standing : Settings := {}
  { timeout := draft.timeout.getD standing.timeout
    initialPushDelay := draft.initialPushDelay.getD standing.initialPushDelay
    pushInterval := draft.pushInterval.getD standing.pushInterval
    displayTimeout := draft.displayTimeout.getD standing.displayTimeout
    notificationMethod := draft.notificationMethod.getD standing.notificationMethod }

end Draft

def found : Json → Found
  | .null => .null
  | .bool b => .bool b
  | .int n => .int n
  | .float x => .float (Decimal.textOf x)
  | .string text => .string (Text.quoted text)
  | .array _ => .array
  | .object _ => .object

/-- Refuses the value at the cursor, where `expected` should stand. An array or object is
   refused before it is read. -/
def refuse (source : Source) (expected : String) (c : Cursor) (b : UInt8) : ReadError :=
  if b = 0x5B then ⟨.wrongType .array expected, c.place source⟩
  else if b = 0x7B then ⟨.wrongType .object expected, c.place source⟩
  else match c.scalar source b with
    | .error error => error
    | .ok (value, after) => ⟨.wrongType (found value) expected, after.place source⟩

def expectedWord : String := "u64"

def readWord (source : Source) (c : Cursor) : Except ReadError (Nat × Cursor) :=
  let c := c.gap
  match c.rest with
  | [] => .error ⟨.endOfValue, c.seen⟩
  | b :: _ =>
    if b = 0x2D ∨ isDigit b then
      match c.number source with
      | .error error => .error error
      | .ok (.int (.ofNat n), after) => .ok (n, after)
      | .ok (.int n, after) => .error ⟨.wrongValue (.int n) expectedWord, after.place source⟩
      | .ok (value, after) => .error ⟨.wrongType (found value) expectedWord, after.place source⟩
    else .error (refuse source expectedWord c b)

def readText (source : Source) (c : Cursor) : Except ReadError (String × Cursor) :=
  let c := c.gap
  match c.rest with
  | [] => .error ⟨.endOfValue, c.seen⟩
  | b :: _ => if b = 0x22 then c.skip.string else .error (refuse source "a string" c b)

def readField (source : Source) (draft : Draft) (field : Field) (c : Cursor) :
    Except ReadError (Draft × Cursor) :=
  let word (set : Nat → Draft) := (readWord source c).map fun (n, after) => (set n, after)
  match field with
  | .timeout => word fun n => { draft with timeout := some n }
  | .initialPushDelay => word fun n => { draft with initialPushDelay := some n }
  | .pushInterval => word fun n => { draft with pushInterval := some n }
  | .displayTimeout => word fun n => { draft with displayTimeout := some n }
  | .notificationMethod =>
    (readText source c).map fun (text, after) => ({ draft with notificationMethod := some text }, after)

/-- The fields of an array, as many as it has. -/
def readListed (source : Source) (draft : Draft) (first : Bool) :
    List Field → Cursor → Except ReadError (Draft × Cursor)
  | [], c => .ok (draft, c)
  | field :: rest, c => do
    match ← c.nextItem first with
    | none => return (draft, c)
    | some item =>
      let (draft, c) ← readField source draft field item
      readListed source draft false rest c

/-- The place that a fault found between two fields is given: behind the closing brace if
   it comes next, and before what stands there otherwise. -/
def afterFields (source : Source) (c : Cursor) : Place :=
  match c.endObject with
  | .ok after => after.place source
  | .error _ => c.gap.place source

def readNamed (source : Source) : (fuel : Nat) → Draft → (first : Bool) → Cursor →
    Except ReadError (Draft × Cursor)
  | 0, _, _, c => .error ⟨.endOfObject, c.seen⟩
  | fuel + 1, draft, first, c => do
    match ← c.nextKey first with
    | none => return (draft, c)
    | some (key, c) =>
      match Field.ofKey? key with
      | none =>
        let value ← c.colon
        let c ← value.passValue source
        readNamed source fuel draft false c
      | some field =>
        if draft.has field then .error ⟨.duplicateField key, afterFields source c⟩
        else
          let value ← c.colon
          let (draft, c) ← readField source draft field value
          readNamed source fuel draft false c

def readSettings (source : Source) (c : Cursor) : Except ReadError (Settings × Cursor) :=
  let c := c.gap
  match c.rest with
  | [] => .error ⟨.endOfValue, c.seen⟩
  | b :: _ =>
    if b = 0x5B then do
      let (draft, c) ← readListed source {} true Field.all c.skip
      return (draft.complete, ← c.endArray)
    else if b = 0x7B then do
      let (draft, c) ← readNamed source (c.rest.length + 1) {} true c.skip
      return (draft.complete, ← c.endObject)
    else .error (refuse source "struct AnalysisConfig" c b)

def read (source : Source) (bytes : List UInt8) : Except ReadError Settings := do
  let (settings, c) ← readSettings source (.start bytes)
  c.finish
  return settings

end ExampleProbes.Settings
