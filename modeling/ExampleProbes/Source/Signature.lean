/-
Function signatures, recognised by shape on one line: the word that ends right before the
first opening parenthesis, and the names in the run of name characters, hyphens, commas
and spaces after it. A name given twice counts once, at its first place.
-/
namespace ExampleProbes

structure Signature where
  identifier : String
  parameters : List String
  deriving DecidableEq, Repr

namespace Signature

def isNameChar (c : Char) : Bool := c.isAlphanum || c == '_' || c == '$'

def isParameterChar (c : Char) : Bool := isNameChar c || c == '-' || c == ',' || c == ' '

/-- The list without what repeats an earlier member. -/
def distinctFrom (seen : List String) : List String → List String
  | [] => []
  | name :: rest =>
    if seen.contains name then distinctFrom seen rest
    else name :: distinctFrom (name :: seen) rest

def distinct (names : List String) : List String := distinctFrom [] names

def of (identifier : String) (parameters : List String) : Signature :=
  ⟨identifier, distinct parameters⟩

/-- The pieces between commas; `piece` is the one being read, last character first. -/
def piecesFrom (piece : List Char) : List Char → List (List Char)
  | [] => [piece.reverse]
  | c :: rest =>
    if c = ',' then piece.reverse :: piecesFrom [] rest else piecesFrom (c :: piece) rest

def parameterNames (run : List Char) : List String :=
  ((piecesFrom [] (run.filter (· != ' '))).filter (!·.isEmpty)).map String.ofList

/-- The longest run of name characters that ends `text`. -/
def trailingName (text : List Char) : List Char := (text.reverse.takeWhile isNameChar).reverse

def find? (line : List Char) : Option Signature :=
  match line.dropWhile (· != '(') with
  | [] => none
  | _ :: after =>
    some (of (String.ofList (trailingName (line.takeWhile (· != '('))))
      (parameterNames (after.takeWhile isParameterChar)))

end Signature
end ExampleProbes
