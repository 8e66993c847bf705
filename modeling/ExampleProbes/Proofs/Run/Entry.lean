import ExampleProbes.Proofs.Run.StageLaws

/-!
Where the run of one example comes to. `entry` says, of the answers that the interpreter
gives from a machine on, whether an example is entered there, with which function and
arguments, or what keeps it out; `attempts` says what comes of attaching its hooks. An
example that is kept out only records the fault. One that is entered attaches its hooks to
the report as it was before, and what its events do is a fold over them.
-/
namespace ExampleProbes

/-- Between the two machines calls were made, but nothing else was done. -/
structure Machine.Consulted (start now : Machine) : Prop where
  report : now.report = start.report
  hooks : now.hooks = start.hooks
  attached : now.attached = start.attached
  held : now.held = start.held

namespace Machine

def hooksOn (site : Site) (machine : Machine) : Nat := machine.hooks.countP (·.site == site)

namespace Consulted

theorem forward : Course.Forward Consulted where
  refl _ := ⟨rfl, rfl, rfl, rfl⟩
  trans first second :=
    ⟨second.report.trans first.report, second.hooks.trans first.hooks,
      second.attached.trans first.attached, second.held.trans first.held⟩

theorem log (call : Call) (machine : Machine) : Consulted machine (machine.log call) :=
  ⟨rfl, rfl, rfl, rfl⟩

end Consulted
end Machine

/-- What came of attaching a hook for a line: the number of the hook and the statement line
    that it went to, if there is one. -/
structure Attempt where
  uri : String
  line : Nat
  landed : Option (Nat × Nat)
  deriving DecidableEq, Repr

namespace Attempt

def call (attempt : Attempt) : Call :=
  .attach attempt.uri attempt.line (attempt.landed.map Prod.fst)

def hook? (name : String) (attempt : Attempt) : Option Hook :=
  attempt.landed.map fun (number, moved) => ⟨number, ⟨attempt.uri, moved⟩, name⟩

def isAt (site : Site) (attempt : Attempt) : Bool :=
  attempt.landed.any fun (_, moved) => (⟨attempt.uri, moved⟩ : Site) == site

end Attempt

namespace Run
open Process Machine

/-- A hook for a line is attached under `number`, after the calls made `earlier`. -/
def attemptAt (interpreter : Interpreter) (number : Nat) (earlier : List Call) (uri : String)
    (line : Nat) : Attempt :=
  ⟨uri, line, (interpreter.snap earlier uri line).toOption.map fun moved => (number, moved)⟩

/-- Hooks for lines are attached, the first of them under `number`. -/
def attempts (interpreter : Interpreter) (number : Nat) (earlier : List Call) :
    List (String × Nat) → List Attempt
  | [] => []
  | (uri, line) :: rest =>
    let made := attemptAt interpreter number earlier uri line
    made :: attempts interpreter (number + made.landed.toList.length) (earlier ++ [made.call]) rest

/-- The values of argument expressions, or the first that has none and why. -/
def valuesOf (interpreter : Interpreter) (languageId : String) (earlier : List Call) :
    List String → Except (String × Fault) (List Value)
  | [] => .ok []
  | source :: rest =>
    match (interpreter.evaluate earlier languageId source argumentSource).value with
    | .error fault => .error (source, fault)
    | .ok value =>
      match valuesOf interpreter languageId
          (earlier ++ [.evaluate languageId source argumentSource]) rest with
      | .error refusal => .error refusal
      | .ok values => .ok (value :: values)

/-- The machine when the function of the example has been looked for. -/
def sought (e : Example) (start : Machine) : Machine :=
  start.log (.lookup e.location.languageId e.signature.identifier)

/-- The function and the arguments with which an example is entered, or the expression that
    keeps it out and why. -/
def entry (interpreter : Interpreter) (e : Example) (start : Machine) :
    Except (String × Fault) (Value × List Value) :=
  let languageId := e.location.languageId
  let identifier := e.signature.identifier
  match target identifier (interpreter.lookup start.calls languageId identifier) with
  | .error fault => .error (identifier, fault)
  | .ok function =>
    match valuesOf interpreter languageId (sought e start).calls e.arguments with
    | .error refusal => .error refusal
    | .ok arguments => .ok (function, arguments)

theorem evaluateAll_value (interpreter : Interpreter) (languageId : String)
    (sources : List String) (machine : Machine) :
    (evaluateAll interpreter languageId sources machine).value =
      valuesOf interpreter languageId machine.calls sources := by
  induction sources generalizing machine with
  | nil => rfl
  | cons source rest ih =>
    simp only [evaluateAll, evaluate, valuesOf, bind_value, bind_final, pure_value, pure_final,
      consult_value, consult_final, sleep_final]
    cases (interpreter.evaluate machine.calls languageId source argumentSource).value with
    | error fault => rfl
    | ok value =>
      simp only [bind_value, ih, Machine.log]
      cases valuesOf interpreter languageId
        (machine.calls ++ [.evaluate languageId source argumentSource]) rest <;> rfl

theorem evaluateAll_consults (interpreter : Interpreter) (languageId : String)
    (sources : List String) :
    Advances Consulted (evaluateAll interpreter languageId sources) :=
  evaluateAll_advances Consulted.forward interpreter languageId (fun m _ => Consulted.log _ m)
    sources

/-- The machine when the arguments of the example have been evaluated. -/
def asked (interpreter : Interpreter) (e : Example) (start : Machine) : Machine :=
  (evaluateAll interpreter e.location.languageId e.arguments (sought e start)).final

theorem asked_consulted (interpreter : Interpreter) (e : Example) (start : Machine) :
    Consulted start (asked interpreter e start) :=
  Consulted.forward.trans (Consulted.log _ start)
    ((evaluateAll_consults interpreter _ e.arguments _).final Consulted.forward)

/-- What comes of attaching the hooks of an example that begins in `start`. -/
def attemptsOf (interpreter : Interpreter) (e : Example) (start : Machine) : List Attempt :=
  attempts interpreter start.attached (asked interpreter e start).calls
    (start.report.linesFor e.name)

/-- The machine when the hooks of the example are attached. -/
def armed (interpreter : Interpreter) (e : Example) (start : Machine) : Machine :=
  attachFor interpreter e.name (asked interpreter e start)

/-- The machine when the function of the example has been called. -/
def called (interpreter : Interpreter) (e : Example) (function : Value)
    (arguments : List Value) (start : Machine) : Machine :=
  (armed interpreter e start).log (.invoke function arguments)

/-- What happens when an example that was entered in `start` calls its function. -/
def invocationOf (interpreter : Interpreter) (e : Example) (function : Value)
    (arguments : List Value) (start : Machine) : Invocation :=
  interpreter.invoke (armed interpreter e start).calls function arguments

/-- How many hooks of an example that begins in `start` go to the statement at a site. -/
def hooksFor (interpreter : Interpreter) (e : Example) (start : Machine) (site : Site) : Nat :=
  (attemptsOf interpreter e start).countP (·.isAt site)

theorem passEvents_final (events : List Event) (machine : Machine) :
    (passEvents events machine).final = events.foldl (fun m event => m.strike event) machine := by
  induction events generalizing machine with
  | nil => rfl
  | cons event rest ih =>
    simp only [passEvents, bind_final, modify_final, sleep_final, ih, List.foldl_cons]

theorem invoke_final (interpreter : Interpreter) (function : Value) (arguments : List Value)
    (machine : Machine) :
    (invoke interpreter function arguments machine).final =
      (interpreter.invoke machine.calls function arguments).events.foldl
        (fun m event => m.strike event) (machine.log (.invoke function arguments)) := by
  simp [invoke, bind_final, passEvents_final]

theorem invoke_value (interpreter : Interpreter) (function : Value) (arguments : List Value)
    (machine : Machine) :
    (invoke interpreter function arguments machine).value =
      (interpreter.invoke machine.calls function arguments).outcome := by
  simp [invoke, bind_value]

section Attach
variable (interpreter : Interpreter) (name : String)

/-- Attaching hooks leaves in the machine what comes of the attempts. -/
theorem attachAll_eq (lines : List (String × Nat)) (machine : Machine) :
    let made := attempts interpreter machine.attached machine.calls lines
    attachAll interpreter name lines machine =
      { machine with
        calls := machine.calls ++ made.map Attempt.call
        hooks := machine.hooks ++ made.filterMap (·.hook? name)
        attached := machine.attached + (made.filterMap (·.landed)).length
        held := machine.held ++ (made.filterMap (·.landed)).map Prod.fst } := by
  induction lines generalizing machine with
  | nil => simp [attachAll, attempts]
  | cons place rest ih =>
    obtain ⟨uri, line⟩ := place
    have next := ih (machine.attach interpreter name uri line)
    simp only [attachAll, List.foldl_cons] at next ⊢
    rw [next]
    cases moved : interpreter.snap machine.calls uri line <;>
      simp [Machine.attach, attempts, attemptAt, moved, Machine.log, Attempt.call, Attempt.hook?,
        Except.toOption, Nat.add_assoc, Nat.add_comm]

theorem attach_report (uri : String) (line : Nat) (machine : Machine) :
    (machine.attach interpreter name uri line).report = machine.report := by
  unfold attach
  split <;> rfl

theorem attachFor_report (machine : Machine) :
    (attachFor interpreter name machine).report = machine.report := by
  rw [attachFor, attachAll_eq]

theorem attachFor_names {machine : Machine} (names : ∀ hook ∈ machine.hooks, hook.name = name) :
    ∀ hook ∈ (attachFor interpreter name machine).hooks, hook.name = name := by
  rw [attachFor, attachAll_eq]
  refine List.forall_mem_append.mpr ⟨names, fun hook member => ?_⟩
  obtain ⟨attempt, _, made⟩ := List.mem_filterMap.mp member
  obtain ⟨landing, _, rfl⟩ := Option.map_eq_some_iff.mp made
  rfl

theorem countP_hook? (site : Site) (made : List Attempt) :
    (made.filterMap (·.hook? name)).countP (·.site == site) = made.countP (·.isAt site) := by
  rw [List.countP_filterMap]
  refine List.countP_congr fun attempt _ => ?_
  unfold Attempt.hook? Attempt.isAt
  cases attempt.landed <;> simp

end Attach

section Called
variable (interpreter : Interpreter) (e : Example) (function : Value) (arguments : List Value)
  (start : Machine)

theorem armed_eq :
    let made := attemptsOf interpreter e start
    armed interpreter e start =
      { start with
        calls := (asked interpreter e start).calls ++ made.map Attempt.call
        hooks := start.hooks ++ made.filterMap (·.hook? e.name)
        attached := start.attached + (made.filterMap (·.landed)).length
        held := start.held ++ (made.filterMap (·.landed)).map Prod.fst } := by
  have consulted := asked_consulted interpreter e start
  have attached := attachAll_eq interpreter e.name
    ((asked interpreter e start).report.linesFor e.name) (asked interpreter e start)
  rw [consulted.attached, consulted.report, consulted.hooks, consulted.held] at attached
  rw [armed, attachFor, consulted.report]
  exact attached

theorem called_report : (called interpreter e function arguments start).report = start.report :=
  (attachFor_report interpreter e.name _).trans (asked_consulted interpreter e start).report

theorem called_names (free : start.hooks = []) :
    ∀ hook ∈ (called interpreter e function arguments start).hooks, hook.name = e.name := by
  refine attachFor_names interpreter e.name fun hook member => ?_
  rw [(asked_consulted interpreter e start).hooks, free] at member
  cases member

theorem called_hooksOn (free : start.hooks = []) (site : Site) :
    (called interpreter e function arguments start).hooksOn site =
      hooksFor interpreter e start site := by
  rw [called, armed_eq]
  simp only [log, hooksOn, free, List.nil_append]
  exact countP_hook? e.name site (attemptsOf interpreter e start)

end Called

variable {interpreter : Interpreter} {e : Example}

/-- An example that is not entered leaves the fault and nothing else. -/
theorem runExample_refused {start : Machine} {source : String} {fault : Fault}
    (refused : entry interpreter e start = .error (source, fault)) :
    ∃ now, Consulted start now ∧ (runExample interpreter e start).final =
      now.change (·.observeExample e (.ofFault source fault)) := by
  simp only [entry] at refused
  simp only [runExample, resolve, settle, bind_final, bind_value, pure_value, pure_final,
    consult_value, consult_final]
  generalize target e.signature.identifier
    (interpreter.lookup start.calls e.location.languageId e.signature.identifier) = found
    at refused ⊢
  cases found with
  | error cause =>
    simp only [Except.error.injEq, Prod.mk.injEq] at refused
    rw [← refused.1, ← refused.2]
    exact ⟨_, Consulted.log (.lookup _ _) start, rfl⟩
  | ok function =>
    simp only [bind_final, evaluateAll_value]
    rw [← sought]
    generalize valuesOf interpreter e.location.languageId (sought e start).calls e.arguments =
      values at refused ⊢
    cases values with
    | error refusal =>
      simp only [Except.error.injEq] at refused
      subst refusal
      exact ⟨_, asked_consulted interpreter e start, rfl⟩
    | ok arguments => simp at refused

theorem runExample_entered {start : Machine} {function : Value} {arguments : List Value}
    (entered : entry interpreter e start = .ok (function, arguments)) :
    (runExample interpreter e start).final =
      (((invocationOf interpreter e function arguments start).events.foldl
        (fun m event => m.strike event) (called interpreter e function arguments start)).change
          (·.observeExample e (.ofOutcome e.signature.identifier
            (invocationOf interpreter e function arguments start).outcome))).release := by
  simp only [entry] at entered
  simp only [runExample, resolve, settle, bind_final, bind_value, pure_value, pure_final,
    consult_value, consult_final]
  generalize target e.signature.identifier
    (interpreter.lookup start.calls e.location.languageId e.signature.identifier) = found
    at entered ⊢
  cases found with
  | error cause => simp at entered
  | ok function =>
    simp only [bind_final, evaluateAll_value]
    rw [← sought]
    generalize valuesOf interpreter e.location.languageId (sought e start).calls e.arguments =
      values at entered ⊢
    cases values with
    | error refusal => simp at entered
    | ok arguments =>
      simp only [Except.ok.injEq, Prod.mk.injEq] at entered
      obtain ⟨rfl, rfl⟩ := entered
      simp only [bind_final, modify_final, invoke_final, invoke_value]
      rfl

theorem runAll_cons_final (rest : List Example) (start : Machine) :
    (runAll interpreter (e :: rest) start).final =
      (runAll interpreter rest (runExample interpreter e start).final).final :=
  bind_final (runExample interpreter e) _ start

theorem runAll_singleton_final (start : Machine) :
    (runAll interpreter [e] start).final = (runExample interpreter e start).final :=
  runAll_cons_final [] start

theorem runAll_append_final (first second : List Example) (start : Machine) :
    (runAll interpreter (first ++ second) start).final =
      (runAll interpreter second (runAll interpreter first start).final).final := by
  induction first generalizing start with
  | nil => rfl
  | cons e rest ih => rw [List.cons_append, runAll_cons_final, ih, runAll_cons_final]

end Run
end ExampleProbes
