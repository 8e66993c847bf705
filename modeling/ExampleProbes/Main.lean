import ExampleProbes.Terminal.Response
/-
The program: it reads the one file that the command line asks for and prints the response.
-/
namespace ExampleProbes.Program

/-- The number of a system error, which may be given below zero, modulo `2 ^ 32`. -/
def systemCode (code : UInt32) : Nat :=
  if code.toNat < 2147483648 then code.toNat else 4294967296 - code.toNat

def codeOf? : IO.Error → Option UInt32
  | .inappropriateType _ code _ => some code
  | .resourceExhausted _ code _ => some code
  | .invalidArgument _ code _ => some code
  | _ => none

def faultOf (error : IO.Error) : FileFault :=
  match error, (codeOf? error).map systemCode with
  | .noFileOrDirectory .., _ => .missing
  | _, some 20 => .notDirectory
  | _, some 21 => .isDirectory
  | _, some 36 => .nameTooLong
  | other, _ => .other other.toString

def readFile (path : String) : IO FileContent := do
  let bytes ← (IO.FS.readBinFile path).toBaseIO
  let absolute ← (IO.FS.realPath path).toBaseIO
  return {
    bytes := (bytes.map (·.data.toList)).mapError faultOf
    absolute := (absolute.map (·.toString)).mapError faultOf }

/-- What the file of a request holds; a request without one has no use for the answer. -/
def contentFor : Except Terminal.Stop Terminal.Request → IO FileContent
  | .ok (.scan path _) | .ok (.config (some path)) => readFile path
  | _ => return ⟨.error .missing, .error .missing⟩

def run (arguments : List String) : IO UInt32 := do
  let request := Terminal.Request.of arguments (← IO.getEnv "LIVEPROBE_CONFIG")
  let content ← contentFor request
  let response := Terminal.respond (fun _ => content) request
  (← IO.getStdout).putStr response.out
  (← IO.getStderr).putStr response.err
  return response.code

end ExampleProbes.Program

def main (arguments : List String) : IO UInt32 := ExampleProbes.Program.run arguments
