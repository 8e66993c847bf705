import ExampleProbes.Text.Lines
/-
An open document and its lines, counted from 1. Line numbers stop at the largest number of
32 bits.
-/
namespace ExampleProbes

structure Document where
  uri : String
  languageId : String
  text : String
  deriving DecidableEq, Repr

def maxLine : Nat := 4294967295

def nextLine (line : Nat) : Nat := min (line + 1) maxLine

theorem one_le_nextLine (line : Nat) : 1 ≤ nextLine line := by
  have largest : 1 ≤ maxLine := by decide
  unfold nextLine
  omega

namespace Document

def lines (document : Document) : List (List Char) := Text.lines document.text.toList

def line? (document : Document) : Nat → Option (List Char)
  | 0 => none
  | n + 1 => document.lines[n]?

end Document

/-- A place in a document. -/
structure Location where
  uri : String
  languageId : String
  line : Nat
  deriving DecidableEq, Repr

/-- The uses of line number 0 that are refused. -/
inductive LineMisuse where
  | source
  | trigger
  deriving DecidableEq, Repr

def LineMisuse.message : LineMisuse → String
  | .source => "source lines are 1-based"
  | .trigger => "trigger lines are 1-based"

def Location.of? (uri languageId : String) (line : Nat) : Except LineMisuse Location :=
  if line = 0 then .error .source else .ok ⟨uri, languageId, line⟩

theorem Location.of?_of_le {line : Nat} (numbered : 1 ≤ line) (uri languageId : String) :
    Location.of? uri languageId line = .ok ⟨uri, languageId, line⟩ :=
  if_neg (by omega)

end ExampleProbes
