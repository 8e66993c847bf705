import ExampleProbes.Guest.Script
import ExampleProbes.Proofs.Run.OwnRecords

/-!
The calls of a run, example by example. A `Segment` says which calls are made for one
example, in which order, and what they leave on its own record: the function is looked for,
then the arguments, up to the first that is not there; only when all are there, hooks are
attached, the function is called and the hooks are detached. A run of several examples is
one segment after another, whatever became of the examples before.
-/
namespace ExampleProbes

namespace Call

def lookupOf (e : Example) : Call := .lookup e.location.languageId e.signature.identifier

def evaluationOf (e : Example) (source : String) : Call :=
  .evaluate e.location.languageId source Run.argumentSource

def isLive : Call → Bool
  | .live _ => true
  | _ => false

end Call
open Call

/-- The expressions are evaluated one after another, after the calls made `earlier`, and
    have these values. -/
inductive Answered (interpreter : Interpreter) (languageId : String) :
    (earlier : List Call) → List String → List Value → Prop where
  | nil {earlier : List Call} : Answered interpreter languageId earlier [] []
  | cons {earlier : List Call} {source : String} {value : Value} {rest : List String}
      {values : List Value}
      (answer : (interpreter.evaluate earlier languageId source Run.argumentSource).value =
        .ok value)
      (others : Answered interpreter languageId
        (earlier ++ [.evaluate languageId source Run.argumentSource]) rest values) :
      Answered interpreter languageId earlier (source :: rest) (value :: values)

section Answers
variable (interpreter : Interpreter) (e : Example) (before : Machine)

def functionOf : Except Fault (Option Value) :=
  interpreter.lookup before.calls e.location.languageId e.signature.identifier

/-- The calls made when, of an example that begins in `before`, these arguments have been
    evaluated. -/
def history (evaluated : List String) : List Call :=
  before.calls ++ lookupOf e :: evaluated.map (evaluationOf e)

/-- The answer for an argument after the `evaluated` ones. -/
def argumentAfter (evaluated : List String) (source : String) : Outcome :=
  (interpreter.evaluate (history e before evaluated) e.location.languageId source
    Run.argumentSource).value

/-- The calls that attach hooks for an example that begins in `before`: one for each line
    where a record then applies to it. A line for which none can be attached is passed
    over. -/
def attaching : List Call :=
  (Run.attempts interpreter before.attached (history e before e.arguments)
    (before.report.linesFor e.name)).map Attempt.call

/-- The calls made for an example that begins in `before`, and what its own record gains.
    While the function runs, probes may ask the paused program. -/
inductive Segment : List Call → Observation → Prop where
  | lookupFailed {fault : Fault} (answer : functionOf interpreter e before = .error fault) :
      Segment [lookupOf e] (.ofFault e.signature.identifier fault)
  | notFound (answer : functionOf interpreter e before = .ok none) :
      Segment [lookupOf e]
        (.ofFault e.signature.identifier (.unknownIdentifier e.signature.identifier))
  | notExecutable {value : Value} (answer : functionOf interpreter e before = .ok (some value))
      (inert : value.has .executable = false) :
      Segment [lookupOf e]
        (.ofFault e.signature.identifier (.notExecutable e.signature.identifier))
  | argumentFailed {function : Value} {first rest : List String} {values : List Value}
      {source : String} {fault : Fault}
      (answer : functionOf interpreter e before = .ok (some function))
      (executable : function.has .executable) (parted : e.arguments = first ++ source :: rest)
      (present : Answered interpreter e.location.languageId (history e before []) first values)
      (missing : argumentAfter interpreter e before first source = .error fault) :
      Segment (lookupOf e :: (first ++ [source]).map (evaluationOf e)) (.ofFault source fault)
  | invoked {function : Value} {arguments : List Value} {live : List Call}
      (answer : functionOf interpreter e before = .ok (some function))
      (executable : function.has .executable)
      (present : Answered interpreter e.location.languageId (history e before []) e.arguments
        arguments)
      (asked : ∀ call ∈ live, call.isLive) :
      Segment
        (lookupOf e :: e.arguments.map (evaluationOf e) ++ attaching interpreter e before ++
          .invoke function arguments :: live ++
          (attachedIn (attaching interpreter e before)).map .detach)
        (.ofOutcome e.signature.identifier
          (interpreter.invoke (history e before e.arguments ++ attaching interpreter e before)
            function arguments).outcome)

end Answers

/-- From `start` to `now` only the paused program was asked. -/
structure Machine.Questioned (start now : Machine) : Prop where
  held : now.held = start.held
  calls : ∃ live, (∀ call ∈ live, call.isLive) ∧ now.calls = start.calls ++ live

namespace Machine.Questioned

theorem refl (machine : Machine) : Questioned machine machine :=
  ⟨rfl, [], List.forall_mem_nil _, (List.append_nil _).symm⟩

theorem live {start now : Machine} (questioned : Questioned start now) (expression : String) :
    Questioned start (now.log (.live expression)) := by
  obtain ⟨held, asked, each, calls⟩ := questioned
  refine ⟨held, asked ++ [.live expression], ?_, by simp [Machine.log, calls]⟩
  exact List.forall_mem_append.mpr ⟨each, List.forall_mem_singleton.mpr rfl⟩

theorem strike {start now : Machine} (questioned : Questioned start now) (event : Event) :
    Questioned start (now.strike event) :=
  Run.strike_kept (Questioned start) event questioned
    (fun _ expression before => before.live expression)
    fun _ _ before => ⟨before.held, before.calls⟩

theorem foldl_strike (events : List Event) (machine : Machine) :
    Questioned machine (events.foldl (fun m event => m.strike event) machine) :=
  List.foldlRecOn events _ (refl machine) fun _ before event _ => before.strike event

end Machine.Questioned

namespace Run
open Process Machine Report
variable (interpreter : Interpreter)

section Arguments
variable (languageId : String)

/-- The argument expressions that are evaluated: none after the first that has no value. -/
def posed (earlier : List Call) : List String → List String
  | [] => []
  | source :: rest =>
    match (interpreter.evaluate earlier languageId source argumentSource).value with
    | .error _ => [source]
    | .ok _ => source :: posed (earlier ++ [.evaluate languageId source argumentSource]) rest

theorem evaluateAll_calls (sources : List String) (machine : Machine) :
    (evaluateAll interpreter languageId sources machine).final.calls =
      machine.calls ++ (posed interpreter languageId machine.calls sources).map
        (.evaluate languageId · argumentSource) := by
  induction sources generalizing machine with
  | nil => simp [evaluateAll, posed]
  | cons source rest ih =>
    simp only [evaluateAll, evaluate, posed, bind_final, bind_value, pure_value, pure_final,
      consult_value, consult_final, sleep_final]
    cases (interpreter.evaluate machine.calls languageId source argumentSource).value with
    | error fault => rfl
    | ok value =>
      simp only [bind_final, evaluateAll_value]
      cases valuesOf interpreter languageId
        (machine.log (.evaluate languageId source argumentSource)).calls rest <;>
        simp [ih, Machine.log]

theorem posed_of_values {earlier : List Call} {sources : List String} {values : List Value}
    (answered : valuesOf interpreter languageId earlier sources = .ok values) :
    posed interpreter languageId earlier sources = sources ∧
      Answered interpreter languageId earlier sources values := by
  induction sources generalizing earlier values with
  | nil =>
    obtain rfl := Except.ok.inj answered
    exact ⟨rfl, .nil⟩
  | cons source rest ih =>
    unfold valuesOf at answered
    split at answered
    · cases answered
    · rename_i value here
      split at answered
      · cases answered
      · rename_i more later
        obtain rfl := Except.ok.inj answered
        obtain ⟨all, each⟩ := ih later
        exact ⟨by simp [posed, here, all], .cons here each⟩

theorem posed_of_refusal {earlier : List Call} {sources : List String} {source : String}
    {fault : Fault}
    (refused : valuesOf interpreter languageId earlier sources = .error (source, fault)) :
    ∃ first rest values, sources = first ++ source :: rest ∧
      posed interpreter languageId earlier sources = first ++ [source] ∧
      Answered interpreter languageId earlier first values ∧
      (interpreter.evaluate (earlier ++ first.map (.evaluate languageId · argumentSource))
        languageId source argumentSource).value = .error fault := by
  induction sources generalizing earlier with
  | nil => cases refused
  | cons next rest ih =>
    unfold valuesOf at refused
    split at refused
    · rename_i cause here
      obtain ⟨rfl, rfl⟩ := Prod.mk.inj (Except.error.inj refused)
      exact ⟨[], rest, [], rfl, by simp [posed, here], .nil, by simpa using here⟩
    · rename_i value here
      split at refused
      · rename_i refusal later
        obtain rfl := Except.error.inj refused
        obtain ⟨first, behind, values, parted, asked, present, missing⟩ := ih later
        exact ⟨next :: first, behind, value :: values, by simp [parted],
          by simp [posed, here, asked], .cons here present, by simpa using missing⟩
      · cases refused

end Arguments

variable (e : Example)

theorem asked_calls (start : Machine) :
    (asked interpreter e start).calls = history e start
      (posed interpreter e.location.languageId (history e start []) e.arguments) := by
  rw [asked, evaluateAll_calls]
  simp [history, sought, Machine.log, lookupOf, evaluationOf]

section Entered
variable {interpreter e} {start : Machine}

theorem armed_calls {arguments : List Value}
    (answered : valuesOf interpreter e.location.languageId (history e start []) e.arguments =
      .ok arguments) :
    (armed interpreter e start).calls =
      history e start e.arguments ++ attaching interpreter e start := by
  have all := (posed_of_values interpreter _ answered).1
  simp only [armed_eq, attemptsOf, asked_calls, all, attaching]

theorem armed_held {arguments : List Value} (idle : start.Idle)
    (answered : valuesOf interpreter e.location.languageId (history e start []) e.arguments =
      .ok arguments) :
    (armed interpreter e start).held = attachedIn (attaching interpreter e start) := by
  have all := (posed_of_values interpreter _ answered).1
  simp only [armed_eq, attemptsOf, asked_calls, all, attaching, idle.2, List.nil_append,
    attachedIn, List.filterMap_map, List.map_filterMap]
  rfl

end Entered

theorem entry_eq (start : Machine) : entry interpreter e start =
    match target e.signature.identifier (functionOf interpreter e start) with
    | .error fault => .error (e.signature.identifier, fault)
    | .ok function =>
      match valuesOf interpreter e.location.languageId (history e start []) e.arguments with
      | .error refusal => .error refusal
      | .ok arguments => .ok (function, arguments) := rfl

variable {interpreter e} {start : Machine}

theorem segment_of_unresolved {fault : Fault}
    (unresolved : target e.signature.identifier (functionOf interpreter e start) =
      .error fault) :
    Segment interpreter e start [lookupOf e] (.ofFault e.signature.identifier fault) := by
  unfold target at unresolved
  split at unresolved
  · rename_i answer
    cases unresolved
    exact .lookupFailed answer
  · rename_i answer
    cases unresolved
    exact .notFound answer
  · rename_i value answer
    split at unresolved
    · cases unresolved
    · rename_i inert
      cases unresolved
      exact .notExecutable answer (by simpa using inert)

theorem functionOf_of_resolved {function : Value}
    (resolved : target e.signature.identifier (functionOf interpreter e start) =
      .ok function) :
    functionOf interpreter e start = .ok (some function) ∧ function.has .executable := by
  unfold target at resolved
  split at resolved
  · cases resolved
  · cases resolved
  · rename_i value answer
    split at resolved
    · rename_i executable
      cases resolved
      exact ⟨answer, executable⟩
    · cases resolved

section RunExample

/-- The run makes the calls of one segment, and ends as the segment tells. -/
def RunsSegment (interpreter : Interpreter) (e : Example) (start : Machine) : Prop :=
  ∃ calls, Segment interpreter e start calls (endingOf interpreter e start) ∧
    (runExample interpreter e start).final.calls = start.calls ++ calls

theorem runsSegment_of_unresolved {fault : Fault}
    (unresolved : target e.signature.identifier (functionOf interpreter e start) =
      .error fault) : RunsSegment interpreter e start := by
  have ending : endingOf interpreter e start = .ofFault e.signature.identifier fault := by
    simp only [endingOf, entry_eq, unresolved]
  rw [RunsSegment, ending]
  refine ⟨[lookupOf e], segment_of_unresolved unresolved, ?_⟩
  unfold functionOf at unresolved
  simp only [runExample, resolve, settle, bind_final, bind_value, pure_value, pure_final,
    consult_value, consult_final, unresolved]
  rfl

theorem runsSegment_of_unanswered {function : Value} {source : String} {fault : Fault}
    (resolved : target e.signature.identifier (functionOf interpreter e start) =
      .ok function)
    (unanswered : valuesOf interpreter e.location.languageId (history e start []) e.arguments =
      .error (source, fault)) : RunsSegment interpreter e start := by
  obtain ⟨answer, executable⟩ := functionOf_of_resolved resolved
  obtain ⟨first, rest, values, parted, posed, present, missing⟩ :=
    posed_of_refusal interpreter _ unanswered
  have ending : endingOf interpreter e start = .ofFault source fault := by
    simp only [endingOf, entry_eq, resolved, unanswered]
  have absent : argumentAfter interpreter e start first source = .error fault := by
    rw [history, List.map_nil, List.append_assoc] at missing
    exact missing
  rw [RunsSegment, ending]
  refine ⟨_, .argumentFailed answer executable parted present absent, ?_⟩
  have made := asked_calls interpreter e start
  rw [posed, history] at made
  rw [← made]
  have looked : (sought e start).calls = history e start [] := rfl
  rw [← looked] at unanswered
  unfold functionOf at resolved
  simp only [runExample, resolve, settle, bind_final, bind_value, pure_value, pure_final,
    consult_value, consult_final, resolved, evaluateAll_value]
  rw [← sought, unanswered]
  rfl

theorem runsSegment_of_entered {function : Value} {arguments : List Value}
    (resolved : target e.signature.identifier (functionOf interpreter e start) =
      .ok function)
    (answered : valuesOf interpreter e.location.languageId (history e start []) e.arguments =
      .ok arguments)
    (idle : start.Idle) : RunsSegment interpreter e start := by
  obtain ⟨answer, executable⟩ := functionOf_of_resolved resolved
  have present := (posed_of_values interpreter _ answered).2
  have entered : entry interpreter e start = .ok (function, arguments) := by
    simp only [entry_eq, resolved, answered]
  have invocation : invocationOf interpreter e function arguments start =
      interpreter.invoke (history e start e.arguments ++ attaching interpreter e start)
        function arguments := by
    rw [invocationOf, armed_calls answered]
  have ending : endingOf interpreter e start = .ofOutcome e.signature.identifier
      (interpreter.invoke (history e start e.arguments ++ attaching interpreter e start)
        function arguments).outcome := by
    simp only [endingOf, entered, invocation]
  -- While the events pass only the paused program is asked, and what is held stays held.
  obtain ⟨kept, live, each, made⟩ := Questioned.foldl_strike
    (invocationOf interpreter e function arguments start).events
    (called interpreter e function arguments start)
  rw [RunsSegment, ending]
  refine ⟨_, .invoked answer executable present each, ?_⟩
  rw [runExample_entered entered, release_eq]
  simp only [change, made, kept]
  simp [called, Machine.log, armed_calls answered, armed_held idle answered, history]

end RunExample

variable (interpreter e)

/-- The run of one example makes the calls of its segment. -/
theorem runExample_segment {start : Machine} (idle : start.Idle) :
    RunsSegment interpreter e start := by
  cases resolved : target e.signature.identifier (functionOf interpreter e start) with
  | error fault => exact runsSegment_of_unresolved resolved
  | ok function =>
    cases values :
        valuesOf interpreter e.location.languageId (history e start []) e.arguments with
    | error refusal => exact runsSegment_of_unanswered resolved values
    | ok arguments => exact runsSegment_of_entered resolved values idle

/-- Several examples make the calls of their segments, one after another. -/
theorem runAll_segments (examples : List Example) {start : Machine} (idle : start.Idle) :
    ∃ segments : List (List Call), segments.length = examples.length ∧
      (runAll interpreter examples start).final.calls = start.calls ++ segments.flatten ∧
      ∀ (i : Nat) e, examples[i]? = some e → ∃ calls, segments[i]? = some calls ∧
        let before := (runAll interpreter (examples.take i) start).final
        Segment interpreter e before calls (endingOf interpreter e before) := by
  induction examples generalizing start with
  | nil => exact ⟨[], rfl, by simp [runAll], by simp⟩
  | cons first rest ih =>
    obtain ⟨calls, segment, made⟩ := runExample_segment interpreter first idle
    have next : (runExample interpreter first start).final.Idle :=
      (runExample_releases interpreter first idle).ends.idle
    obtain ⟨segments, length, later, each⟩ := ih next
    refine ⟨calls :: segments, by simp [length], ?_, ?_⟩
    · rw [runAll_cons_final, later, made, List.flatten_cons, List.append_assoc]
    · intro i e found
      cases i with
      | zero =>
        obtain rfl : first = e := by simpa using found
        exact ⟨calls, rfl, segment⟩
      | succ i =>
        obtain ⟨own, here, segment⟩ := each i e (by simpa using found)
        refine ⟨own, by simpa using here, ?_⟩
        rwa [List.take_succ_cons, runAll_cons_final]

section FailedArgument

def twoArguments : Example := ⟨"A", ⟨"a", "toy", 1⟩, ⟨"f", ["x", "y"]⟩, ["1", "n"]⟩

def oneArgument : Example := ⟨"B", ⟨"a", "toy", 3⟩, ⟨"g", ["x"]⟩, ["1"]⟩

/-- The examples, a probe that asks and one for a line that takes no hook. -/
def unknownArgumentReport : Report :=
  ⟨[{ uri := "a", languageId := "toy",
      examples := [{ probe := .ofExample twoArguments }, { probe := .ofExample oneArgument }],
      lines := [(6, [{ probe := .expression none 6 5 "x" }]),
        (8, [{ probe := .statement none 8 }])] }]⟩

def executableCalled (name : String) : Value :=
  { display := .ok name, has := (· == .executable) }

/-- The expression `n` has no value, so that only the second function is called. -/
def unknownArgument : Script where
  globals := [("toy", ["f", "g"].map fun name => (name, .ok (executableCalled name)))]
  sources := [("1", ⟨3, .ok (.ofText "1")⟩)]
  snaps := [(⟨"a", 8⟩, .error (.internal "no statement"))]
  invocations := [("g",
    [⟨[⟨0, ⟨"a", 6⟩, ⟨"a", 6, "x = 1", .ok (.ofText "1"), Script.scope []⟩⟩], 0,
      .ok (.ofText "2")⟩])]

end FailedArgument

end Run
end ExampleProbes
