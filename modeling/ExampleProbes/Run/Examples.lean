import ExampleProbes.Run.Course
import ExampleProbes.Run.Firing
/-
Running examples one after another. The function and then the arguments are looked for; the
first that is not there ends the example with that fault. Then hooks are attached for every
line whose probes record for the example, the function is called, and the hooks are
released, also where the run is given up halfway.
-/
namespace ExampleProbes.Run

def argumentSource : String := "<argument expression>"

/-- The executable global that the example calls. -/
def target (identifier : String) : Except Fault (Option Value) → Except Fault Value
  | .error fault => .error fault
  | .ok none => .error (.unknownIdentifier identifier)
  | .ok (some value) => if value.has .executable then .ok value else .error (.notExecutable identifier)

/-- Makes a call, whose answer depends on those made before. -/
def consult {α : Type} (call : Call) (answer : (earlier : List Call) → α) : Process Machine α := do
  let machine ← Process.get
  Process.modify (·.log call)
  return answer machine.calls

def resolve (interpreter : Interpreter) (e : Example) : Process Machine (Except Fault Value) := do
  let languageId := e.location.languageId
  let identifier := e.signature.identifier
  let answer ← consult (.lookup languageId identifier)
    (interpreter.lookup · languageId identifier)
  return target identifier answer

def evaluate (interpreter : Interpreter) (languageId source name : String) :
    Process Machine Outcome := do
  let answer ← consult (.evaluate languageId source name)
    (interpreter.evaluate · languageId source name)
  Process.sleep answer.delay
  return answer.value

/-- The values of argument expressions, or the first expression that has none and why. -/
def evaluateAll (interpreter : Interpreter) (languageId : String) :
    List String → Process Machine (Except (String × Fault) (List Value))
  | [] => return .ok []
  | source :: rest => do
    match ← evaluate interpreter languageId source argumentSource with
    | .error fault => return .error (source, fault)
    | .ok value =>
      match ← evaluateAll interpreter languageId rest with
      | .error refusal => return .error refusal
      | .ok values => return .ok (value :: values)

def attachAll (interpreter : Interpreter) (name : String) (lines : List (String × Nat))
    (machine : Machine) : Machine :=
  lines.foldl (fun m (uri, line) => m.attach interpreter name uri line) machine

def attachFor (interpreter : Interpreter) (name : String) (machine : Machine) : Machine :=
  attachAll interpreter name (machine.report.linesFor name) machine

def passEvents : List Event → Process Machine Unit
  | [] => return ()
  | event :: rest => do
    Process.sleep event.delay
    Process.modify (·.strike event)
    passEvents rest

def invoke (interpreter : Interpreter) (function : Value) (arguments : List Value) :
    Process Machine Outcome := do
  let course ← consult (.invoke function arguments) (interpreter.invoke · function arguments)
  passEvents course.events
  Process.sleep course.delay
  return course.outcome

def settle (e : Example) (observation : Observation) : Process Machine Unit :=
  Process.modify (·.change (·.observeExample e observation))

def runExample (interpreter : Interpreter) (e : Example) : Process Machine Unit := do
  let identifier := e.signature.identifier
  match ← resolve interpreter e with
  | .error fault => settle e (.ofFault identifier fault)
  | .ok function =>
    match ← evaluateAll interpreter e.location.languageId e.arguments with
    | .error (source, fault) => settle e (.ofFault source fault)
    | .ok arguments => do
      Process.modify (attachFor interpreter e.name)
      let outcome ← invoke interpreter function arguments
      settle e (.ofOutcome identifier outcome)
      Process.modify Machine.release

def runAll (interpreter : Interpreter) : List Example → Process Machine Unit
  | [] => return ()
  | e :: rest => do
    runExample interpreter e
    runAll interpreter rest

end ExampleProbes.Run
