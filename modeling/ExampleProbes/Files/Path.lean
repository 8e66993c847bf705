/-
Paths of files: segments between slashes. Empty segments and those that name the directory
they stand in count for nothing; a path from the root starts with a slash.
-/
namespace ExampleProbes.Path

/-- The pieces between slashes; `piece` is the one being read, last character first. -/
def splitFrom (piece : List Char) : List Char → List (List Char)
  | [] => [piece.reverse]
  | c :: rest =>
    if c = '/' then piece.reverse :: splitFrom [] rest else splitFrom (c :: piece) rest

def here : List Char := ['.']

def parent : List Char := ['.', '.']

def segments (path : String) : List (List Char) :=
  (splitFrom [] path.toList).filter fun piece => piece != [] && piece != here

def isAbsolute (path : String) : Bool := path.toList.head? == some '/'

def name? (path : String) : Option (List Char) :=
  match (segments path).getLast? with
  | some piece => if piece = parent then none else some piece
  | none => none

/-- What follows the last full stop of a name, unless the name has none or starts with it. -/
def extension? (name : List Char) : Option (List Char) :=
  let reversed := name.reverse
  match reversed.dropWhile (· != '.') with
  | [] | [_] => none
  | _ => some (reversed.takeWhile (· != '.')).reverse

def below (directory path : String) : String :=
  if isAbsolute path then path
  else if directory.toList.getLast? = some '/' then directory ++ path
  else directory ++ "/" ++ path

end ExampleProbes.Path
