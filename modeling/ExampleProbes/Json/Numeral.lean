import ExampleProbes.Json.Basic
import ExampleProbes.Json.Cursor
/-
JSON numbers. One without point and exponent is a whole number where it fits into 64 bits,
signed or not; minus zero and all others become doubles. A double is made from the leading
digits that fit into 64 bits, scaled by powers of ten in double arithmetic.
-/
namespace ExampleProbes.Json

/-- `exponentAt` is the place before the first digit of the exponent. -/
structure Numeral where
  negative : Bool
  whole : List Nat
  fraction : List Nat := []
  exponent : List Nat := []
  exponentNegative : Bool := false
  exponentAt : Place := {}
  deriving DecidableEq, Repr

def digitsFrom : List UInt8 → Place → List Nat × Cursor
  | [], place => ([], .of [] place)
  | b :: rest, place =>
    if isDigit b then
      let (more, c) := digitsFrom rest (place.past b)
      (digitValue b :: more, c)
    else ([], ⟨b :: rest, place, place.past b⟩)

namespace Numeral

/-- The first digit must be there. `cut` is the cause given where the text ends instead. -/
def firstDigit (cut : Cause) (c : Cursor) : Except ReadError Unit :=
  match c.rest with
  | [] => .error ⟨cut, c.read⟩
  | b :: _ => if isDigit b then .ok () else .error ⟨.number, c.read.past b⟩

def readWhole (cut : Cause) (c : Cursor) : Except ReadError (List Nat × Cursor) := do
  firstDigit cut c
  match digitsFrom c.rest c.read with
  | (0 :: _ :: _, _) => .error ⟨.number, c.skip.peek.seen⟩
  | found => return found

def readFraction (cut : Cause) (c : Cursor) : Except ReadError (List Nat × Cursor) :=
  match c.rest with
  | 0x2E :: _ =>
    match digitsFrom c.skip.rest c.skip.read with
    | ([], after) =>
      if after.rest.isEmpty then .error ⟨cut, after.seen⟩ else .error ⟨.number, after.seen⟩
    | found => .ok found
  | _ => .ok ([], c)

/-- A sign behind the exponent's letter: whether it is a minus, and what follows. -/
def readSign (c : Cursor) : Bool × Cursor :=
  match c.rest with
  | 0x2B :: _ => (false, c.skip)
  | 0x2D :: _ => (true, c.skip)
  | _ => (false, c)

def readExponent (cut : Cause) (numeral : Numeral) (c : Cursor) : Except ReadError (Numeral × Cursor) :=
  if c.rest.head? = some 0x65 ∨ c.rest.head? = some 0x45 then do
    let (negative, digits) := readSign c.skip
    firstDigit cut digits
    let (found, after) := digitsFrom digits.rest digits.read
    return ({ numeral with
      exponent := found, exponentNegative := negative, exponentAt := digits.read }, after)
  else .ok (numeral, c)

def read (cut : Cause) (c : Cursor) : Except ReadError (Numeral × Cursor) := do
  let negative := c.rest.head? = some 0x2D
  let (whole, c) ← readWhole cut (if negative then c.skip else c)
  let (fraction, c) ← readFraction cut c
  readExponent cut { negative := negative, whole := whole, fraction := fraction } c

end Numeral

def maxWord : Nat := 18446744073709551615

/-- The leading digits that fit into a word, and the power of ten they are to be scaled by.
   Once a digit of the whole part has been left out, the rest of it is too; likewise for the
   fraction. -/
structure Significand where
  value : Nat
  exponent : Int
  full : Bool
  deriving DecidableEq, Repr

namespace Significand

def addWhole (s : Significand) (d : Nat) : Significand :=
  if s.full ∨ maxWord < s.value * 10 + d then ⟨s.value, s.exponent + 1, true⟩
  else ⟨s.value * 10 + d, s.exponent, false⟩

def addFraction (s : Significand) (d : Nat) : Significand :=
  if s.full ∨ maxWord < s.value * 10 + d then ⟨s.value, s.exponent, true⟩
  else ⟨s.value * 10 + d, s.exponent - 1, false⟩

def ofDigits (whole fraction : List Nat) : Significand :=
  let s := whole.foldl addWhole ⟨0, 0, false⟩
  fraction.foldl addFraction { s with full := false }

end Significand

def powerOfTen (n : Nat) : Float := Float.ofScientific 1 false n

def divideByPower (x : Float) (n : Nat) : Float :=
  if n ≤ 308 then x / powerOfTen n
  else if x == 0.0 then x
  else divideByPower (x / powerOfTen 308) (n - 308)
termination_by n

/-- None where the result would be infinite. -/
def scale? (x : Float) (exponent : Int) : Option Float :=
  if exponent < 0 then some (divideByPower x exponent.natAbs)
  else if exponent ≤ 308 then
    let y := x * powerOfTen exponent.toNat
    if y.isInf then none else some y
  else if x == 0.0 then some x
  else none

def maxExponent : Nat := 2147483647

/-- The value of the exponent's digits, or how many were read when it grew too large. -/
def exponentFrom (value count : Nat) : List Nat → Except Nat Nat
  | [] => .ok value
  | d :: rest =>
    if maxExponent < value * 10 + d then .error (count + 1)
    else exponentFrom (value * 10 + d) (count + 1) rest

namespace Numeral

def signed (numeral : Numeral) (x : Float) : Float := if numeral.negative then -x else x

def ofWord (n : Nat) : Float := (UInt64.ofNat n).toFloat

/-- The double of a numeral; `after` is the place to blame when it is too large. -/
def float (numeral : Numeral) (after : Place) : Except ReadError Float :=
  let s := Significand.ofDigits numeral.whole numeral.fraction
  match exponentFrom 0 0 numeral.exponent with
  | .error count =>
    if s.value ≠ 0 ∧ !numeral.exponentNegative then
      .error ⟨.numberRange, { numeral.exponentAt with column := numeral.exponentAt.column + count }⟩
    else .ok (numeral.signed 0.0)
  | .ok e =>
    match scale? (ofWord s.value) (s.exponent + if numeral.exponentNegative then -(e : Int) else e) with
    | some x => .ok (numeral.signed x)
    | none => .error ⟨.numberRange, after⟩

def value (numeral : Numeral) (after : Place) : Except ReadError Json :=
  let s := Significand.ofDigits numeral.whole []
  if numeral.fraction.isEmpty ∧ numeral.exponent.isEmpty ∧ s.exponent = 0 ∧
      (!numeral.negative ∨ 0 < s.value ∧ s.value ≤ 9223372036854775808) then
    .ok (.int (if numeral.negative then -s.value else s.value))
  else (numeral.float after).map .float

end Numeral

def Cursor.passNumber (c : Cursor) : Except ReadError Cursor :=
  (Numeral.read .number c).map (·.2)

def Cursor.number (source : Source) (c : Cursor) : Except ReadError (Json × Cursor) := do
  let (numeral, after) ← Numeral.read .endOfValue c
  let value ← numeral.value (after.place source)
  return (value, after)

end ExampleProbes.Json
