import ExampleProbes.Text.Space
/-
The three markers an annotation line may carry. A marker stands where its name, opened by
an angle bracket, is followed by white space, a slash, a closing bracket or the line's end,
so a longer name that starts with the same letters is not one.
-/
namespace ExampleProbes

inductive Marker where
  | example
  | probe
  | assertion
  deriving DecidableEq, Repr

namespace Marker

def name : Marker → String
  | .example => "Example"
  | .probe => "Probe"
  | .assertion => "Assertion"

def opening (marker : Marker) : List Char := '<' :: marker.name.toList

/-- What is left of `text` after `word`, when it starts with it. -/
def after? : (word text : List Char) → Option (List Char)
  | [], text => some text
  | _ :: _, [] => none
  | w :: word, c :: text => if w = c then after? word text else none

def endsName : List Char → Bool
  | [] => true
  | c :: _ => Text.isSpace c || c == '/' || c == '>'

def standsAt (marker : Marker) (text : List Char) : Bool :=
  match after? marker.opening text with
  | none => false
  | some rest => endsName rest

/-- The line cut at the first place where the marker stands. -/
def split? (marker : Marker) : List Char → Option (List Char × List Char)
  | [] => none
  | c :: rest =>
    if marker.standsAt (c :: rest) then some ([], c :: rest)
    else (marker.split? rest).map fun (before, tail) => (c :: before, tail)

def isOn (marker : Marker) (line : List Char) : Bool := (marker.split? line).isSome

/-- The place of the marker, counted in bytes of UTF-8. -/
def offset? (marker : Marker) (line : List Char) : Option Nat :=
  (marker.split? line).map fun (before, _) => (String.ofList before).utf8ByteSize

theorem after?_eq_some_iff {word text rest : List Char} :
    after? word text = some rest ↔ text = word ++ rest := by
  induction word generalizing text with
  | nil => simp [after?, eq_comm]
  | cons w word ih =>
    cases text with
    | nil => simp [after?]
    | cons c text =>
      by_cases h : w = c
      · simp [after?, h, ih]
      · simp [after?, h, Ne.symm h]

end Marker
end ExampleProbes
