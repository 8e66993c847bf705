/-
Addresses of one document. A `file` address that starts with a drive letter may be spelled
with either case of the letter and with the colon plain or percent-encoded; the normal form
has the upper-case letter and the plain colon. Two addresses name the same document when
their normal forms agree.
-/
namespace ExampleProbes.DriveLetter

/-- The drive letter and what follows the slash behind its colon. -/
def split? : List Char → Option (Char × List Char)
  | 'f' :: 'i' :: 'l' :: 'e' :: ':' :: '/' :: '/' :: '/' :: letter :: rest =>
    if letter.isAlpha then
      match rest with
      | ':' :: '/' :: path => some (letter, path)
      | '%' :: '3' :: 'A' :: '/' :: path => some (letter, path)
      | '%' :: '3' :: 'a' :: '/' :: path => some (letter, path)
      | _ => none
    else none
  | _ => none

def normalize (uri : List Char) : List Char :=
  match split? uri with
  | some (letter, path) => "file:///".toList ++ letter.toUpper :: ':' :: '/' :: path
  | none => uri

end ExampleProbes.DriveLetter

namespace ExampleProbes

def normalUri (uri : String) : String := String.ofList (DriveLetter.normalize uri.toList)

def sameDocument (a b : String) : Bool := normalUri a == normalUri b

theorem sameDocument_iff {a b : String} : sameDocument a b ↔ normalUri a = normalUri b := by
  rw [sameDocument, beq_iff_eq]

end ExampleProbes
