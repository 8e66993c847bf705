import ExampleProbes.Decimal.Shortest
/-
How the digits of a number are laid out as text.
-/
namespace ExampleProbes.Decimal

/-- Exponents from `least` to `most` are written out in places with a point, the others as
   one digit, a point before further digits, `e`, and a signed exponent without leading
   zeros. -/
structure Layout where
  least : Int
  most : Int
  deriving DecidableEq, Repr

def Layout.standard : Layout := ⟨-5, 15⟩

def digitChars (digits : List Nat) : List Char :=
  digits.map fun d => Char.ofNat ('0'.toNat + d)

/-- The digits in places, with at least one on both sides of the point. -/
def positional (d : Digits) : List Char :=
  let n := d.digits.length
  if d.exponent < 0 then
    '0' :: '.' :: (List.replicate (-d.exponent - 1).toNat '0' ++ digitChars d.digits)
  else
    let whole := d.exponent.toNat + 1
    if n ≤ whole then
      digitChars d.digits ++ List.replicate (whole - n) '0' ++ ['.', '0']
    else
      digitChars (d.digits.take whole) ++ '.' :: digitChars (d.digits.drop whole)

def exponential (d : Digits) : List Char :=
  let mantissa := match digitChars d.digits with
    | first :: [] => [first]
    | first :: rest => first :: '.' :: rest
    | [] => []
  let sign := if d.exponent < 0 then '-' else '+'
  mantissa ++ 'e' :: sign :: (toString d.exponent.natAbs).toList

def Layout.text (layout : Layout) (d : Digits) : List Char :=
  if layout.least ≤ d.exponent ∧ d.exponent ≤ layout.most then positional d
  else exponential d

/-- A finite double, zero with its sign. -/
def textOf (x : Float) : String :=
  let bits := x.toBits.toNat
  let sign := if bits < Nat.pow 2 63 then [] else ['-']
  let fraction := bits % Nat.pow 2 52
  let biased := bits / Nat.pow 2 52 % Nat.pow 2 11
  if fraction = 0 ∧ biased = 0 then String.ofList (sign ++ ['0', '.', '0'])
  else String.ofList (sign ++ Layout.standard.text (Span.ofBits fraction biased).shortest)

end ExampleProbes.Decimal
