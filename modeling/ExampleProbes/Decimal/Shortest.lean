/-
The shortest decimal that reads back as a given binary fraction. A finite double is a whole
number times a power of two; the reals that round to it form an interval, whose ends belong
to it when that number is even. The decimal with the fewest digits in the interval is
wanted, and of several the one nearest to the value. On a grid of decimals with a fixed
last place only the two neighbours of the value can be those, so both are tested for one
digit, two digits and so on; seventeen always suffice.
-/
namespace ExampleProbes.Decimal

/-- A digit string and the power of ten that its first digit counts: `digits` 125 with
   exponent 1 is 12.5. -/
structure Digits where
  digits : List Nat
  exponent : Int
  deriving DecidableEq, Repr

/-- The value `4 * m / den * num` of a double and the ends of its interval, over `den`. -/
structure Span where
  low : Nat
  value : Nat
  high : Nat
  den : Nat
  closed : Bool
  deriving DecidableEq, Repr

def Span.ofBits (fraction biased : Nat) : Span :=
  let m := if biased = 0 then fraction else fraction + Nat.pow 2 52
  let e := max biased 1
  let num := if 1077 ≤ e then Nat.pow 2 (e - 1077) else 1
  let den := if 1077 ≤ e then 1 else Nat.pow 2 (1077 - e)
  let below := if fraction = 0 ∧ 1 < biased then 1 else 2
  ⟨(4 * m - below) * num, 4 * m * num, (4 * m + 2) * num, den, m % 2 = 0⟩

def Span.holds (s : Span) (d : Nat) (place : Int) : Bool :=
  let d' := d * Nat.pow 10 place.toNat * s.den
  let up := Nat.pow 10 (-place).toNat
  if s.closed then s.low * up ≤ d' && d' ≤ s.high * up
  else s.low * up < d' && d' < s.high * up

/-- The value in units of `10 ^ place`: its whole part, and the rest over the divisor. -/
def Span.units (s : Span) (place : Int) : Nat × Nat × Nat :=
  let above := s.value * Nat.pow 10 (-place).toNat
  let divisor := s.den * Nat.pow 10 place.toNat
  (above / divisor, above % divisor, divisor)

/-- Of the two neighbours of the value on the grid the nearer one in the span. -/
def Span.onGrid? (s : Span) (place : Int) : Option Nat :=
  let (d, rest, divisor) := s.units place
  let near := if 2 * rest < divisor ∨ 2 * rest = divisor ∧ d % 2 = 0 then d else d + 1
  let far := if near = d then d + 1 else d
  if s.holds near place then some near
  else if s.holds far place then some far
  else none

/-- The place of the first digit of a positive number `num / den`: the power of ten that is
   at most it, while its successor is more. -/
def leadingPlace (num den : Nat) : Int :=
  if den ≤ num then ((Nat.toDigits 10 (num / den)).length : Int) - 1
  else -((Nat.toDigits 10 ((den - 1) / num)).length : Int)

def digitsOf (n : Nat) : List Nat := (Nat.toDigits 10 n).map fun c => c.toNat - '0'.toNat

def dropTrailingZeros (digits : List Nat) : List Nat :=
  (digits.reverse.dropWhile (· == 0)).reverse

def Span.search (s : Span) : Nat → Int → Option (Nat × Int)
  | 0, _ => none
  | fuel + 1, place =>
    match s.onGrid? place with
    | some d => if d = 0 then s.search fuel (place - 1) else some (d, place)
    | none => s.search fuel (place - 1)

def Span.shortest (s : Span) : Digits :=
  match s.search 18 (leadingPlace s.value s.den) with
  | none => ⟨[], 0⟩
  | some (d, place) =>
    let digits := digitsOf d
    ⟨dropTrailingZeros digits, place + digits.length - 1⟩

end ExampleProbes.Decimal
