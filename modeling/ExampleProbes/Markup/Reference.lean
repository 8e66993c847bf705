/-
Character references inside attribute values. Five have names; the others give the number
of a Unicode scalar value in decimal or, after an `x`, in hexadecimal digits. A number may
carry one leading plus sign.
-/
namespace ExampleProbes.Reference

def named? (name : List Char) : Option Char :=
  if name = "lt".toList then some '<'
  else if name = "gt".toList then some '>'
  else if name = "amp".toList then some '&'
  else if name = "quot".toList then some '\x22'
  else if name = "apos".toList then some '\x27'
  else none

def decimalDigit? (c : Char) : Option Nat :=
  if '0' ≤ c ∧ c ≤ '9' then some (c.toNat - '0'.toNat) else none

def hexDigit? (c : Char) : Option Nat :=
  if '0' ≤ c ∧ c ≤ '9' then some (c.toNat - '0'.toNat)
  else if 'a' ≤ c ∧ c ≤ 'f' then some (c.toNat - 'a'.toNat + 10)
  else if 'A' ≤ c ∧ c ≤ 'F' then some (c.toNat - 'A'.toNat + 10)
  else none

def digitsFrom? (digit? : Char → Option Nat) (base value : Nat) : List Char → Option Nat
  | [] => some value
  | c :: rest => (digit? c).bind fun d => digitsFrom? digit? base (value * base + d) rest

/-- One or more digits, after at most one plus sign. -/
def number? (digit? : Char → Option Nat) (base : Nat) : List Char → Option Nat
  | [] => none
  | '+' :: [] => none
  | '+' :: rest => digitsFrom? digit? base 0 rest
  | text => digitsFrom? digit? base 0 text

def scalar? (n : Nat) : Option Char :=
  if n.isValidChar then some (Char.ofNat n) else none

/-- The character that the text between an ampersand and a semicolon stands for. -/
def char? (name : List Char) : Option Char :=
  match named? name with
  | some c => some c
  | none =>
    match name with
    | '#' :: 'x' :: digits => (number? hexDigit? 16 digits).bind scalar?
    | '#' :: 'X' :: digits => (number? hexDigit? 16 digits).bind scalar?
    | '#' :: digits => (number? decimalDigit? 10 digits).bind scalar?
    | _ => none

/-- `name` is the reference read so far, last character first, while inside one. -/
def decodeFrom (name : Option (List Char)) : List Char → Option (List Char)
  | [] => match name with
    | none => some []
    | some _ => none
  | c :: rest =>
    match name with
    | none =>
      if c = '&' then decodeFrom (some []) rest
      else (decodeFrom none rest).map (c :: ·)
    | some name =>
      if c = ';' then
        (char? name.reverse).bind fun d => (decodeFrom none rest).map (d :: ·)
      else decodeFrom (some (c :: name)) rest

/-- Each reference becomes its character, which is not looked at again; none where an
   ampersand starts no reference. -/
def decode (text : List Char) : Option (List Char) := decodeFrom none text

theorem decode_nil : decode [] = some [] := rfl

theorem decode_cons_plain (c : Char) (rest : List Char) (h : c ≠ '&') :
    decode (c :: rest) = (decode rest).map (c :: ·) := by
  simp [decode, decodeFrom, h]

theorem decodeFrom_name (read name rest : List Char) (h : ';' ∉ name) :
    decodeFrom (some read) (name ++ ';' :: rest) =
      (char? (read.reverse ++ name)).bind fun d => (decode rest).map (d :: ·) := by
  induction name generalizing read with
  | nil => simp [decodeFrom, decode]
  | cons c name ih =>
    simp only [List.mem_cons, not_or] at h
    simp [decodeFrom, Ne.symm h.1, ih _ h.2]

theorem decode_reference (name rest : List Char) (h : ';' ∉ name) :
    decode ('&' :: (name ++ ';' :: rest)) =
      (char? name).bind fun d => (decode rest).map (d :: ·) := by
  simpa [decode, decodeFrom] using decodeFrom_name [] name rest h

end ExampleProbes.Reference
