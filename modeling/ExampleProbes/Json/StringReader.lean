import ExampleProbes.Json.Cursor
/-
The inside of JSON strings, as a machine that takes one byte at a time. Escapes of UTF-16
surrogates must come in pairs. Where a string is only passed over, pairs are not looked at.
-/
namespace ExampleProbes.Json

/-- Where the machine stands inside a string: between characters, behind a backslash, inside
   the four digits of a code unit (those read so far, last first, and the high surrogate
   they must complete), or where the backslash or `u` of a low surrogate is due. -/
inductive StringState where
  | plain
  | escape
  | unit (digits : List UInt8) (high : Option Nat)
  | lowSlash (high : Nat)
  | lowLetter (high : Nat)
  deriving DecidableEq, Repr

def hexValue? (b : UInt8) : Option Nat :=
  if 0x30 ≤ b && b ≤ 0x39 then some (b.toNat - 0x30)
  else if 0x61 ≤ b && b ≤ 0x66 then some (b.toNat - 0x61 + 10)
  else if 0x41 ≤ b && b ≤ 0x46 then some (b.toNat - 0x41 + 10)
  else none

def hexNumber? (digits : List UInt8) : Option Nat :=
  digits.foldl (fun n b => n.bind fun n => (hexValue? b).map (16 * n + ·)) (some 0)

def utf8 (code : Nat) : List UInt8 := String.utf8EncodeChar (Char.ofNat code)

def escapedByte? (b : UInt8) : Option UInt8 :=
  if b = 0x22 ∨ b = 0x5C ∨ b = 0x2F then some b
  else if b = 0x62 then some 0x08
  else if b = 0x66 then some 0x0C
  else if b = 0x6E then some 0x0A
  else if b = 0x72 then some 0x0D
  else if b = 0x74 then some 0x09
  else none

def isHigh (unit : Nat) : Bool := 0xD800 ≤ unit && unit ≤ 0xDBFF

def isLow (unit : Nat) : Bool := 0xDC00 ≤ unit && unit ≤ 0xDFFF

def unitDone (unit : Nat) : Option Nat → Except Cause (List UInt8 × StringState)
  | none =>
    if isLow unit then .error .loneSurrogate
    else if isHigh unit then .ok ([], .lowSlash unit)
    else .ok (utf8 unit, .plain)
  | some high =>
    if isLow unit then
      .ok (utf8 ((high - 0xD800) * 0x400 + (unit - 0xDC00) + 0x10000), .plain)
    else .error .loneSurrogate

/-- One byte that does not close the string: the bytes it completes and the next state. -/
def StringState.step (state : StringState) (b : UInt8) :
    Except Cause (List UInt8 × StringState) :=
  match state with
  | .plain =>
    if b = 0x5C then .ok ([], .escape)
    else if b < 0x20 then .error .controlCharacter
    else .ok ([b], .plain)
  | .escape =>
    if b = 0x75 then .ok ([], .unit [] none)
    else match escapedByte? b with
      | some byte => .ok ([byte], .plain)
      | none => .error .escape
  | .unit digits high =>
    if digits.length < 3 then .ok ([], .unit (b :: digits) high)
    else match hexNumber? (b :: digits).reverse with
      | some found => unitDone found high
      | none => .error .escape
  | .lowSlash high => if b = 0x5C then .ok ([], .lowLetter high) else .error .hexEnd
  | .lowLetter high => if b = 0x75 then .ok ([], .unit [] (some high)) else .error .hexEnd

/-- The bytes of a string whose opening quote is read; `out` holds those found, last first. -/
def stringFrom (state : StringState) (out : List UInt8) : List UInt8 → Place →
    Except ReadError (List UInt8 × Cursor)
  | [], place => .error ⟨.endOfString, place⟩
  | b :: rest, place =>
    if state = .plain ∧ b = 0x22 then .ok (out.reverse, .of rest (place.past b))
    else match state.step b with
      | .error cause => .error ⟨cause, place.past b⟩
      | .ok (bytes, next) => stringFrom next (bytes.reverse ++ out) rest (place.past b)

/-- Where the characters from byte `i` on end: at the first byte that starts none. -/
def charsEnd (bytes : ByteArray) (i : Nat) : Nat :=
  if i < bytes.size then
    match bytes.utf8DecodeChar? i with
    | some c => charsEnd bytes (i + c.utf8Size)
    | none => i
  else i
termination_by bytes.size - i
decreasing_by
  have := c.utf8Size_pos
  omega

/-- Bytes that form no character are placed by counting back from the end of the string; an
   escape counts there as the bytes it stands for. -/
def Cursor.string (c : Cursor) : Except ReadError (String × Cursor) := do
  let (found, after) ← stringFrom .plain [] c.rest c.read
  let bytes : ByteArray := ⟨found.toArray⟩
  match String.fromUTF8? bytes with
  | some text => return (text, after)
  | none => .error ⟨.codePoint, after.read.back (bytes.size - charsEnd bytes 0)⟩

/-- How many bytes of an escape are due while a string is passed over. -/
inductive PassState where
  | plain
  | escape
  | unit (digits : List UInt8)
  deriving DecidableEq, Repr

def PassState.step (state : PassState) (b : UInt8) : Except Cause PassState :=
  match state with
  | .plain => if b = 0x5C then .ok .escape else .ok .plain
  | .escape =>
    if b = 0x75 then .ok (.unit [])
    else if (escapedByte? b).isSome then .ok .plain
    else .error .escape
  | .unit digits =>
    if digits.length < 3 then .ok (.unit (b :: digits))
    else if (hexNumber? (b :: digits).reverse).isSome then .ok .plain
    else .error .escape

/-- Passes over a string. A control character is not read from a text, but it is from a
   stream. -/
def passStringFrom (source : Source) (state : PassState) : List UInt8 → Place →
    Except ReadError Cursor
  | [], place => .error ⟨.endOfString, place⟩
  | b :: rest, place =>
    if state = .plain ∧ b = 0x22 then .ok (.of rest (place.past b))
    else if state = .plain ∧ b < 0x20 then
      .error ⟨.controlCharacter, match source with
        | .text => place
        | .stream => place.past b⟩
    else match state.step b with
      | .error cause => .error ⟨cause, place.past b⟩
      | .ok next => passStringFrom source next rest (place.past b)

def Cursor.passString (source : Source) (c : Cursor) : Except ReadError Cursor :=
  passStringFrom source .plain c.rest c.read

end ExampleProbes.Json
