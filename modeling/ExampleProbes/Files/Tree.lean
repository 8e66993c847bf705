import ExampleProbes.Files.Fault
import ExampleProbes.Files.Path
import ExampleProbes.Files.Input
/-
Files kept in memory, below one working directory. Looking a path up walks its segments
one by one, as a system does that follows no links.
-/
namespace ExampleProbes

/-- Places are lists of segments from the root. -/
structure FileTree where
  directory : List (List Char)
  files : List (List (List Char) × List UInt8) := []
  deriving DecidableEq, Repr

namespace FileTree

def placeOf (tree : FileTree) (path : String) : List (List Char) :=
  tree.directory ++ Path.segments path

/-- A later file takes the place of an earlier one of its name. -/
def write (path : String) (bytes : List UInt8) (tree : FileTree) : FileTree :=
  { tree with files := (tree.placeOf path, bytes) :: tree.files }

def isFile (tree : FileTree) (place : List (List Char)) : Bool :=
  tree.files.any fun (name, _) => name == place

def isDirectory (tree : FileTree) (place : List (List Char)) : Bool :=
  place.isPrefixOf tree.directory ||
    tree.files.any fun (name, _) => place.isPrefixOf name && place != name

def longestName : Nat := 255

def longestPath : Nat := 4095

def sizeOf (text : List Char) : Nat := (String.ofList text).utf8ByteSize

/-- Walks on from a place that is there. -/
def walk (tree : FileTree) (place : List (List Char)) :
    List (List Char) → Except FileFault (List (List Char))
  | [] => .ok place
  | segment :: rest =>
    if !tree.isDirectory place then .error .notDirectory
    else if segment = Path.parent then walk tree place.dropLast rest
    else if longestName < sizeOf segment then .error .nameTooLong
    else
      let next := place ++ [segment]
      if tree.isFile next || tree.isDirectory next then walk tree next rest
      else .error .missing

/-- Whether a path says of its last name that it is a directory. -/
def endsAsDirectory (path : String) : Bool :=
  match (Path.splitFrom [] path.toList).getLast? with
  | some piece => piece == [] || piece == Path.here
  | none => false

def find (tree : FileTree) (path : String) : Except FileFault (List (List Char)) :=
  if path.toList.contains '\x00' then .error .zeroInName
  else if path = "" then .error .missing
  else if longestPath < path.utf8ByteSize then .error .nameTooLong
  else
    let start := if Path.isAbsolute path then [] else tree.directory
    match tree.walk start (Path.segments path) with
    | .error fault => .error fault
    | .ok place =>
      if endsAsDirectory path && tree.isFile place then .error .notDirectory else .ok place

def read (tree : FileTree) (path : String) : Except FileFault (List UInt8) :=
  match tree.find path with
  | .error fault => .error fault
  | .ok place =>
    match tree.files.lookup place with
    | some bytes => .ok bytes
    | none => .error .isDirectory

def placeText (place : List (List Char)) : String :=
  match place with
  | [] => "/"
  | segments => String.join (segments.map fun segment => "/" ++ String.ofList segment)

def content (tree : FileTree) (path : String) : FileContent where
  bytes := tree.read path
  absolute := (tree.find path).map placeText

end FileTree
end ExampleProbes
