/-
Why a file could not be read. `other` keeps the words of a system that has more reasons.
-/
namespace ExampleProbes

inductive FileFault where
  | missing
  | notDirectory
  | isDirectory
  | nameTooLong
  | zeroInName
  | notText
  | other (text : String)
  deriving DecidableEq, Repr

namespace FileFault

def coded (text : String) (code : Nat) : String := text ++ " (os error " ++ toString code ++ ")"

def message : FileFault → String
  | .missing => coded "No such file or directory" 2
  | .notDirectory => coded "Not a directory" 20
  | .isDirectory => coded "Is a directory" 21
  | .nameTooLong => coded "File name too long" 36
  | .zeroInName => "file name contained an unexpected NUL byte"
  | .notText => "stream did not contain valid UTF-8"
  | .other text => text

end FileFault
end ExampleProbes
