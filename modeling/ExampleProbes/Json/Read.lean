import ExampleProbes.Json.StringReader
import ExampleProbes.Json.Numeral
/-
JSON values from bytes. A value nests at most 127 arrays and objects. A value that is not
wanted is passed over instead: its numbers may be of any size, its strings may hold lone
surrogates, and it may nest to any depth.
-/
namespace ExampleProbes.Json

/-- The next thing in an array, or none at its closing bracket, which is not read. -/
def Cursor.nextItem (first : Bool) (c : Cursor) : Except ReadError (Option Cursor) :=
  let c := c.gap
  match c.rest with
  | [] => .error ⟨.endOfArray, c.seen⟩
  | b :: _ =>
    if b = 0x5D then .ok none
    else if first then .ok (some c)
    else if b = 0x2C then
      let c := c.skip.gap
      match c.rest with
      | [] => .error ⟨.endOfValue, c.seen⟩
      | b :: _ => if b = 0x5D then .error ⟨.trailingComma, c.seen⟩ else .ok (some c)
    else .error ⟨.commaOrBracket, c.seen⟩

/-- The next key of an object up to its colon, or none at its closing brace, which is not
   read. -/
def Cursor.nextKey (first : Bool) (c : Cursor) : Except ReadError (Option (String × Cursor)) :=
  let c := c.gap
  match c.rest with
  | [] => .error ⟨.endOfObject, c.seen⟩
  | b :: _ =>
    if b = 0x7D then .ok none
    else if first then
      if b = 0x22 then c.skip.string.map some else .error ⟨.keyNotString, c.seen⟩
    else if b = 0x2C then
      let c := c.skip.gap
      match c.rest with
      | [] => .error ⟨.endOfValue, c.seen⟩
      | b :: _ =>
        if b = 0x22 then c.skip.string.map some
        else if b = 0x7D then .error ⟨.trailingComma, c.seen⟩
        else .error ⟨.keyNotString, c.seen⟩
    else .error ⟨.commaOrBrace, c.seen⟩

def Cursor.colon (c : Cursor) : Except ReadError Cursor :=
  let c := c.gap
  match c.rest with
  | [] => .error ⟨.endOfObject, c.seen⟩
  | b :: _ => if b = 0x3A then .ok c.skip else .error ⟨.colon, c.seen⟩

def Cursor.endArray (c : Cursor) : Except ReadError Cursor :=
  let c := c.gap
  match c.rest with
  | [] => .error ⟨.endOfArray, c.seen⟩
  | b :: _ =>
    if b = 0x5D then .ok c.skip
    else if b = 0x2C then
      let c := c.skip.gap
      if c.rest.head? = some 0x5D then .error ⟨.trailingComma, c.seen⟩
      else .error ⟨.trailingText, c.seen⟩
    else .error ⟨.trailingText, c.seen⟩

def Cursor.endObject (c : Cursor) : Except ReadError Cursor :=
  let c := c.gap
  match c.rest with
  | [] => .error ⟨.endOfObject, c.seen⟩
  | b :: _ =>
    if b = 0x7D then .ok c.skip
    else if b = 0x2C then .error ⟨.trailingComma, c.seen⟩
    else .error ⟨.trailingText, c.seen⟩

def Cursor.finish (c : Cursor) : Except ReadError Unit :=
  let c := c.gap
  if c.rest.isEmpty then .ok () else .error ⟨.trailingText, c.seen⟩

/-- A value that is neither array nor object, at a byte that was looked at. -/
def Cursor.scalar (source : Source) (c : Cursor) (b : UInt8) : Except ReadError (Json × Cursor) :=
  if b = 0x6E then (c.skip.word "ull").map (.null, ·)
  else if b = 0x74 then (c.skip.word "rue").map (.bool true, ·)
  else if b = 0x66 then (c.skip.word "alse").map (.bool false, ·)
  else if b = 0x22 then c.skip.string.map fun (text, after) => (.string text, after)
  else if b = 0x2D ∨ isDigit b then c.number source
  else .error ⟨.value, c.seen⟩

mutual
/-- `fuel` counts bytes, `depth` the levels of nesting left. -/
def valueWithin (source : Source) : (fuel depth : Nat) → Cursor → Except ReadError (Json × Cursor)
  | 0, _, c => .error ⟨.endOfValue, c.seen⟩
  | fuel + 1, depth, c =>
    let c := c.gap
    match c.rest with
    | [] => .error ⟨.endOfValue, c.seen⟩
    | b :: _ =>
      if b = 0x5B then
        if depth ≤ 1 then .error ⟨.depth, c.seen⟩
        else do
          let (items, c) ← itemsWithin source fuel (depth - 1) true c.skip
          let c ← c.endArray
          return (.array items, c)
      else if b = 0x7B then
        if depth ≤ 1 then .error ⟨.depth, c.seen⟩
        else do
          let (fields, c) ← fieldsWithin source fuel (depth - 1) true c.skip
          let c ← c.endObject
          return (.object (sorted fields), c)
      else c.scalar source b

def itemsWithin (source : Source) : (fuel depth : Nat) → (first : Bool) → Cursor →
    Except ReadError (List Json × Cursor)
  | 0, _, _, c => .error ⟨.endOfArray, c.seen⟩
  | fuel + 1, depth, first, c => do
    match ← c.nextItem first with
    | none => return ([], c.gap)
    | some c =>
      let (item, c) ← valueWithin source fuel depth c
      let (more, c) ← itemsWithin source fuel depth false c
      return (item :: more, c)

def fieldsWithin (source : Source) : (fuel depth : Nat) → (first : Bool) → Cursor →
    Except ReadError ((List (String × Json)) × Cursor)
  | 0, _, _, c => .error ⟨.endOfObject, c.seen⟩
  | fuel + 1, depth, first, c => do
    match ← c.nextKey first with
    | none => return ([], c.gap)
    | some (name, c) =>
      let c ← c.colon
      let (value, c) ← valueWithin source fuel depth c
      let (more, c) ← fieldsWithin source fuel depth false c
      return ((name, value) :: more, c)
end

def read (text : String) : Except ReadError Json := do
  let bytes := text.toUTF8.data.toList
  let (value, c) ← valueWithin .text (2 * bytes.length + 2) 128 (.start bytes)
  c.finish
  return value

def Cursor.passScalar (source : Source) (c : Cursor) (b : UInt8) : Except ReadError Cursor :=
  if b = 0x6E then c.skip.word "ull"
  else if b = 0x74 then c.skip.word "rue"
  else if b = 0x66 then c.skip.word "alse"
  else if b = 0x22 then c.skip.passString source
  else if b = 0x2D ∨ isDigit b then c.passNumber
  else .error ⟨.value, c.seen⟩

/-- The key that must stand here, up to the value behind its colon. -/
def Cursor.passKey (source : Source) (c : Cursor) : Except ReadError Cursor :=
  let c := c.gap
  match c.rest with
  | [] => .error ⟨.endOfObject, c.seen⟩
  | b :: _ =>
    if b = 0x22 then do (← c.skip.passString source).colon
    else .error ⟨.keyNotString, c.seen⟩

mutual
def passWithin (source : Source) : (fuel : Nat) → Cursor → Except ReadError Cursor
  | 0, c => .error ⟨.endOfValue, c.seen⟩
  | fuel + 1, c =>
    let c := c.gap
    match c.rest with
    | [] => .error ⟨.endOfValue, c.seen⟩
    | b :: _ =>
      if b = 0x5B then passItemsWithin source fuel true c.skip
      else if b = 0x7B then passFieldsWithin source fuel true c.skip
      else c.passScalar source b

/-- What follows an opening bracket, or an item where `first` is false. -/
def passItemsWithin (source : Source) : (fuel : Nat) → (first : Bool) → Cursor →
    Except ReadError Cursor
  | 0, _, c => .error ⟨.endOfArray, c.seen⟩
  | fuel + 1, first, c =>
    let c := c.gap
    match c.rest with
    | [] => .error ⟨.endOfArray, c.seen⟩
    | b :: _ =>
      if b = 0x5D then .ok c.skip
      else if first then do passItemsWithin source fuel false (← passWithin source fuel c)
      else if b = 0x2C then do
        passItemsWithin source fuel false (← passWithin source fuel c.skip)
      else .error ⟨.commaOrBracket, c.seen⟩

/-- What follows an opening brace, or a field where `first` is false. -/
def passFieldsWithin (source : Source) : (fuel : Nat) → (first : Bool) → Cursor →
    Except ReadError Cursor
  | 0, _, c => .error ⟨.endOfObject, c.seen⟩
  | fuel + 1, first, c =>
    let c := c.gap
    match c.rest with
    | [] => .error ⟨.endOfObject, c.seen⟩
    | b :: _ =>
      if b = 0x7D then .ok c.skip
      else if first then do
        let value ← c.passKey source
        passFieldsWithin source fuel false (← passWithin source fuel value)
      else if b = 0x2C then do
        let value ← c.skip.passKey source
        passFieldsWithin source fuel false (← passWithin source fuel value)
      else .error ⟨.commaOrBrace, c.seen⟩
end

def Cursor.passValue (source : Source) (c : Cursor) : Except ReadError Cursor :=
  passWithin source (2 * c.rest.length + 2) c

end ExampleProbes.Json
