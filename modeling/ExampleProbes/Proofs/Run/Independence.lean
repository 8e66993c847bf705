import ExampleProbes.Command.Analysis
import ExampleProbes.Guest.Script
import ExampleProbes.Proofs.Report.Growth
import ExampleProbes.Proofs.Run.OwnObservations

/-!
What the run of one example may change for the next. Under the name of the next it leaves
no observation. But where it finds a line without probes it leaves an orphan, which is a
probe for every example, so that the next one has a hook for that line too. All this is
about interpreters that answer the next example as they would without the one before;
`AnsweredAlike` says which answers these are.
-/
namespace ExampleProbes

/-- The hook for the line goes to the statement line that `snapped` tells, if to any. -/
def Attempt.Follows (snapped : String → Nat → Option Nat) (attempt : Attempt) : Prop :=
  attempt.landed.map Prod.snd = snapped attempt.uri attempt.line

namespace Run
open Machine Report

/-- Begun in `now` or in `start`, the example finds the same function and arguments, its call
    runs the same course, and a hook for a line goes to the same statement. -/
structure AnsweredAlike (interpreter : Interpreter) (e : Example)
    (snapped : String → Nat → Option Nat) (start now : Machine) : Prop where
  entry : entry interpreter e now = entry interpreter e start
  call : callOf interpreter e now = callOf interpreter e start
  hooks : (callOf interpreter e start).isSome →
    ∀ attempt ∈ attemptsOf interpreter e start ++ attemptsOf interpreter e now,
      attempt.Follows snapped

/-- What the interpreter answers does not depend on what it was asked before. -/
structure Forgetful (interpreter : Interpreter) : Prop where
  lookup : ∀ calls, interpreter.lookup calls = interpreter.lookup []
  evaluate : ∀ calls, interpreter.evaluate calls = interpreter.evaluate []
  snap : ∀ calls, interpreter.snap calls = interpreter.snap []
  invoke : ∀ calls, interpreter.invoke calls = interpreter.invoke []

namespace Forgetful
variable {interpreter : Interpreter} (forgetful : Forgetful interpreter)
include forgetful

theorem valuesOf_eq (languageId : String) (sources : List String) (calls : List Call) :
    valuesOf interpreter languageId calls sources =
      valuesOf interpreter languageId [] sources := by
  induction sources generalizing calls with
  | nil => rfl
  | cons source rest ih =>
    unfold valuesOf
    rw [forgetful.evaluate calls, ih (calls ++ _), ih ([] ++ _)]

theorem entry_eq (e : Example) (start now : Machine) :
    Run.entry interpreter e now = Run.entry interpreter e start := by
  unfold Run.entry
  simp only [forgetful.lookup now.calls, forgetful.lookup start.calls,
    forgetful.valuesOf_eq _ _ (sought e now).calls,
    forgetful.valuesOf_eq _ _ (sought e start).calls]

theorem attempts_follow (lines : List (String × Nat)) (number : Nat) (calls : List Call) :
    ∀ attempt ∈ attempts interpreter number calls lines,
      attempt.Follows fun uri line => (interpreter.snap [] uri line).toOption := by
  induction lines generalizing number calls with
  | nil => exact List.forall_mem_nil _
  | cons place rest ih =>
    refine List.forall_mem_cons.mpr ⟨?_, ih _ _⟩
    simp only [Attempt.Follows, attemptAt, forgetful.snap calls, Option.map_map]
    cases (interpreter.snap [] place.1 place.2).toOption <;> rfl

/-- Such an interpreter answers every example alike, whatever was run before. -/
theorem answeredAlike (e : Example) (start now : Machine) :
    AnsweredAlike interpreter e (fun uri line => (interpreter.snap [] uri line).toOption)
      start now where
  entry := forgetful.entry_eq e start now
  call := by
    unfold callOf invocationOf
    simp only [forgetful.entry_eq e start now, forgetful.invoke (armed interpreter e now).calls,
      forgetful.invoke (armed interpreter e start).calls]
  hooks _ := List.forall_mem_append.mpr
    ⟨forgetful.attempts_follow _ _ _, forgetful.attempts_follow _ _ _⟩

end Forgetful

/-- The report grew on the way, by the lines that orphans claimed. -/
def Grows (earlier later : Machine) : Prop := ∃ added, GrownBy added earlier.report later.report

theorem grows_forward : Course.Forward Grows where
  refl m := ⟨[], .refl m.report⟩
  trans := by
    rintro a b c ⟨added, first⟩ ⟨more, second⟩
    exact ⟨added ++ more, first.trans second⟩

theorem fire_grows (name : String) (firing : Firing) (machine : Machine) :
    Grows machine (machine.fire name firing) := by
  refine fire_kept name firing (fun report => ∃ added, GrownBy added machine.report report)
    ?_ ?_ ⟨[], .refl machine.report⟩
  · rintro index observation report ⟨added, grown⟩
    exact ⟨added ++ [], grown.trans (observe_grows ..)⟩
  · rintro observation report unclaimed ⟨added, grown⟩
    obtain ⟨more, orphan⟩ := observeOrphan_grows firing.uri firing.line name observation unclaimed
    exact ⟨added ++ more, grown.trans orphan⟩

theorem strike_grows (machine : Machine) (event : Event) :
    Grows machine (machine.strike event) :=
  List.foldlRecOn (motive := Grows machine) _ _ (grows_forward.refl machine)
    fun m grows hook _ => grows_forward.trans grows (fire_grows hook.name event.firing m)

theorem runAll_grows (interpreter : Interpreter) (examples : List Example) (start : Machine) :
    Grows start (runAll interpreter examples start).final := by
  have same : ∀ m n : Machine, n.report = m.report → Grows m n := by
    intro m n equal
    refine ⟨[], ?_⟩
    rw [equal]
    exact .refl m.report
  have advances : Process.Advances Grows (runAll interpreter examples) := by
    refine runAll_advances grows_forward interpreter ?_ ?_ ?_ strike_grows ?_ examples
    · exact fun m call => same m _ rfl
    · exact fun m e observation => ⟨[], observeExample_grows observation e m.report⟩
    · exact fun m name uri line => same m _ (attach_report interpreter name uri line m)
    · exact fun m => same m _ (by rw [release_eq])
  exact (advances start).final grows_forward

section Snapped
variable {interpreter : Interpreter} {snapped : String → Nat → Option Nat}

def goesTo (snapped : String → Nat → Option Nat) (site : Site) (place : String × Nat) : Bool :=
  (snapped place.1 place.2).any fun moved => (⟨place.1, moved⟩ : Site) == site

theorem isAt_of_follows {attempt : Attempt} (follows : attempt.Follows snapped) (site : Site) :
    attempt.isAt site = goesTo snapped site (attempt.uri, attempt.line) := by
  rw [goesTo, ← follows, Option.any_map]
  rfl

theorem countP_attempts (site : Site) (lines : List (String × Nat)) (number : Nat)
    (calls : List Call)
    (follow : ∀ attempt ∈ attempts interpreter number calls lines, attempt.Follows snapped) :
    (attempts interpreter number calls lines).countP (·.isAt site) =
      lines.countP (goesTo snapped site) := by
  induction lines generalizing number calls with
  | nil => rfl
  | cons place rest ih =>
    obtain ⟨first, others⟩ := List.forall_mem_cons.mp follow
    simp only [attempts, List.countP_cons, ih _ _ others, isAt_of_follows first site]
    rfl

theorem hooksFor_eq {e : Example} {start : Machine}
    (follow : ∀ attempt ∈ attemptsOf interpreter e start, attempt.Follows snapped) (site : Site) :
    hooksFor interpreter e start site =
      (start.report.linesFor e.name).countP (goesTo snapped site) :=
  countP_attempts site _ _ _ follow

theorem hooksFor_grown {e : Example} {start now : Machine} {added : List (String × Nat)}
    (grown : GrownBy added start.report now.report)
    (follow : ∀ attempt ∈ attemptsOf interpreter e start ++ attemptsOf interpreter e now,
      attempt.Follows snapped) (site : Site) :
    hooksFor interpreter e now site =
      hooksFor interpreter e start site + added.countP (goesTo snapped site) := by
  obtain ⟨before, after⟩ := List.forall_mem_append.mp follow
  rw [hooksFor_eq before, hooksFor_eq after, (grown.lines e.name).countP_eq, List.countP_append]

end Snapped

section Collected
variable {hooks more : Site → Nat} {name uri : String} {line : Nat} {events : List Event}

theorem collected_sublist (fewer : ∀ site, hooks site ≤ more site) (probe : Probe) :
    (collected hooks name uri line events probe).Sublist
      (collected more name uri line events probe) := by
  induction events with
  | nil => exact List.Sublist.refl []
  | cons event rest ih =>
    simp only [collected, List.flatMap_cons] at ih ⊢
    refine List.Sublist.append ?_ ih
    split
    · exact (List.replicate_sublist_replicate _).mpr (fewer event.site)
    · exact List.Sublist.refl []

theorem collected_congr
    (agree : ∀ event ∈ events, (uri, line) = (event.firing.uri, event.firing.line) →
      hooks event.site = more event.site) :
    collected hooks name uri line events = collected more name uri line events := by
  funext probe
  refine List.flatMap_congr fun event member => ?_
  by_cases here : (uri, line) = (event.firing.uri, event.firing.line)
  · rw [agree event member here]
  · simp only [here, false_and, ↓reduceIte]

end Collected

theorem shown_extend {first second : Probe → List Observation}
    (fewer : ∀ probe, (first probe).Sublist (second probe))
    (view : List (Probe × List Observation)) (index : Nat) :
    ((((view.map (extend first))[index]?).map Prod.snd).getD []).Sublist
      ((((view.map (extend second))[index]?).map Prod.snd).getD []) := by
  simp only [List.getElem?_map]
  cases view[index]? with
  | none => exact List.Sublist.refl []
  | some shown => exact (fewer shown.1).append_left shown.2

section Grown
variable {interpreter : Interpreter} {e : Example} {snapped : String → Nat → Option Nat}
  {added : List (String × Nat)} {start now : Machine}

theorem collected_grown (grown : GrownBy added start.report now.report)
    (alike : AnsweredAlike interpreter e snapped start now) (uri : String) (line : Nat) :
    collected (hooksFor interpreter e now) e.name uri line (eventsOf interpreter e now) =
      collected (fun site => hooksFor interpreter e start site + added.countP (goesTo snapped site))
        e.name uri line (eventsOf interpreter e start) := by
  have events : eventsOf interpreter e now = eventsOf interpreter e start := by
    rw [eventsOf, alike.call, eventsOf]
  rw [events]
  cases called : callOf interpreter e start with
  | none =>
    have silent : eventsOf interpreter e start = [] := by simp [eventsOf, called]
    rw [silent]
    rfl
  | some invocation =>
    exact congrArg (collected · e.name uri line _)
      (funext (hooksFor_grown grown (alike.hooks (by simp [called]))))

theorem endingOf_of_alike (alike : AnsweredAlike interpreter e snapped start now) :
    endingOf interpreter e now = endingOf interpreter e start := by
  have call := alike.call
  unfold callOf at call
  unfold endingOf
  rw [alike.entry] at call ⊢
  split
  · rename_i entered
    simp only [entered, Option.some.injEq] at call
    rw [call]
  · rfl

variable (freed : now.hooks = []) (grown : GrownBy added start.report now.report)
  (alike : AnsweredAlike interpreter e snapped start now)
include freed grown alike

/-- From a report that grew, a run shows what it shows anyway, extended by what the hooks for
    all trigger lines collect. -/
theorem runExample_viewFor_grown {uri : String} {line : Nat}
    (heard : start.report.Heard uri line)
    (view : now.report.viewFor e.name uri line = start.report.viewFor e.name uri line) :
    (runExample interpreter e now).final.report.viewFor e.name uri line =
      (start.report.viewFor e.name uri line).map
        (extend (collected (fun site => hooksFor interpreter e start site +
          added.countP (goesTo snapped site)) e.name uri line
            (eventsOf interpreter e start))) := by
  have still : now.report.Heard uri line := ⟨heard.1, grown.uris.symm ▸ heard.2⟩
  rw [runExample_viewFor_own interpreter e freed still, view, collected_grown grown alike]

theorem runExample_observedAt_grown (free : start.hooks = [])
    (view : ∀ uri line,
      now.report.viewFor e.name uri line = start.report.viewFor e.name uri line)
    (uri : String) (line index : Nat) :
    let later := (runExample interpreter e now).final.report
    let alone := (runExample interpreter e start).final.report
    (alone.observedAt e.name uri line index).Sublist (later.observedAt e.name uri line index) ∧
      ((∀ event ∈ eventsOf interpreter e start,
          (uri, line) = (event.firing.uri, event.firing.line) →
          ∀ place ∈ added, goesTo snapped event.site place = false) →
        later.observedAt e.name uri line index = alone.observedAt e.name uri line index) := by
  intro later alone
  by_cases heard : start.report.Heard uri line
  · have after := runExample_viewFor_grown freed grown alike heard (view uri line)
    have before := runExample_viewFor_own interpreter e free heard
    rw [observedAt_eq, observedAt_eq, after, before]
    constructor
    · refine shown_extend (fun probe => ?_) _ index
      exact collected_sublist (fun site => Nat.le_add_right _ _) probe
    · intro clear
      congr 4
      refine congrArg extend (collected_congr fun event member here => ?_)
      have none : added.countP (goesTo snapped event.site) = 0 := by
        rw [List.countP_eq_zero]
        intro place inside
        simp [clear event member here place inside]
      rw [none, Nat.add_zero]
  · have lost : ¬ now.report.Heard uri line := fun gained =>
      heard ⟨gained.1, grown.uris ▸ gained.2⟩
    have unchanged : later.observedAt e.name uri line index =
        alone.observedAt e.name uri line index := by
      have shown := view uri line
      rw [observedAt_eq, observedAt_eq,
        viewFor_congr (runExample_recordsAt_of_not_heard interpreter e lost),
        viewFor_congr (runExample_recordsAt_of_not_heard interpreter e heard), shown]
    exact ⟨unchanged ▸ List.Sublist.refl _, fun _ => unchanged⟩

end Grown

/-- Let `b` be answered alike with and without a run of `a` before. Then it has hooks for the
    trigger lines it had without `a` and for those of the orphans that `a` left. Its
    observations are kept, in order, and are the same at each line whose events meet no hook
    of the latter kind. -/
theorem later_example_unaffected_but_by_orphans (interpreter : Interpreter) {a b : Example}
    (different : a.name ≠ b.name) {start : Machine} (idle : start.Idle)
    {snapped : String → Nat → Option Nat}
    (alike : AnsweredAlike interpreter b snapped start (runAll interpreter [a] start).final) :
    let between := (runAll interpreter [a] start).final.report
    let both := (runAll interpreter [a, b] start).final.report
    let alone := (runAll interpreter [b] start).final.report
    ∃ added, GrownBy added start.report between ∧
      (∀ uri, both.exampleViewFor b.name uri = alone.exampleViewFor b.name uri) ∧
      ∀ uri line index,
        (alone.observedAt b.name uri line index).Sublist
          (both.observedAt b.name uri line index) ∧
        ((∀ event ∈ eventsOf interpreter b start,
            (uri, line) = (event.firing.uri, event.firing.line) →
            ∀ place ∈ added, goesTo snapped event.site place = false) →
          both.observedAt b.name uri line index = alone.observedAt b.name uri line index) := by
  intro between both alone
  have foreign : b.name ≠ a.name := Ne.symm different
  have free : (runAll interpreter [a] start).final.hooks = [] :=
    (runAll_releases interpreter [a] idle).ends.idle.1
  have first : (runAll interpreter [a] start).final = (runExample interpreter a start).final :=
    runAll_singleton_final start
  have second : both =
      (runExample interpreter b (runAll interpreter [a] start).final).final.report := by
    rw [first, ← runAll_singleton_final, ← runAll_cons_final]
  have only : alone = (runExample interpreter b start).final.report :=
    congrArg Machine.report (runAll_singleton_final start)
  obtain ⟨added, grown⟩ := runAll_grows interpreter [a] start
  refine ⟨added, grown, fun uri => ?_, fun uri line index => ?_⟩
  · rw [second, only, runExample_exampleViewFor_own, runExample_exampleViewFor_own,
      endingOf_of_alike alike, first, runExample_exampleViewFor_other interpreter a foreign]
  · have view : ∀ uri line,
        between.viewFor b.name uri line = start.report.viewFor b.name uri line := by
      intro uri line
      rw [← runExample_viewFor_other interpreter a idle.1 foreign, ← first]
    rw [second, only]
    exact runExample_observedAt_grown free grown alike idle.1 view uri line index

section OrphanLeft

/-- Two examples of one function, a probe for the first, whose line holds no statement, and
    a probe for both. -/
def filteredText : Document where
  uri := "a"
  languageId := "toy"
  text := "// <Example :name=\"A\" x=\"0\" />\n// <Example :name=\"B\" x=\"5\" />\nf(x)\n" ++
    "// <Probe :example=\"A\" />\n//\nx = x\n// <Probe />\ny = x"

def filteredPlan : Analysis.Plan := Analysis.planFor [filteredText] filteredText none

def exampleA : Example := ⟨"A", ⟨"a", "toy", 1⟩, ⟨"f", ["x"]⟩, ["0"]⟩

def exampleB : Example := ⟨"B", ⟨"a", "toy", 2⟩, ⟨"f", ["x"]⟩, ["5"]⟩

/-- Every function runs the statements on lines 6 and 8, which come to its first argument.
    The hook for line 5 goes to the statement on line 6. -/
def firstArgument : Interpreter where
  load _ _ := ⟨0, .ok ()⟩
  lookup _ _ name := .ok (some { display := .ok name, has := (· == .executable) })
  evaluate _ _ source _ := ⟨0, .ok (.ofText source)⟩
  snap _ _ line := .ok (max line 6)
  invoke _ _ arguments :=
    let outcome := .ok (arguments.headD (.ofText "nothing"))
    let event := fun line source =>
      ⟨0, ⟨"a", line⟩, ⟨"a", line, source, outcome, Script.scope []⟩⟩
    ⟨[event 6 "x = x", event 8 "y = x"], 0, outcome⟩

theorem firstArgument_forgetful : Forgetful firstArgument :=
  ⟨fun _ => rfl, fun _ => rfl, fun _ => rfl, fun _ => rfl⟩

theorem later_example_after_a_filtered_probe :
    let start : Machine := { report := filteredPlan.report }
    let both := (runAll firstArgument [exampleA, exampleB] start).final.report
    let alone := (runAll firstArgument [exampleB] start).final.report
    exampleA.name ≠ exampleB.name ∧ start.Idle ∧
      AnsweredAlike firstArgument exampleB (fun _ line => some (max line 6)) start
        (runAll firstArgument [exampleA] start).final ∧
      (∀ uri, both.exampleViewFor "B" uri = alone.exampleViewFor "B" uri) ∧
      (alone.observedAt "B" "a" 8 0).length = 1 ∧
      ∀ index, both.observedAt "B" "a" 8 index = alone.observedAt "B" "a" 8 index := by
  intro start both alone
  have different : exampleA.name ≠ exampleB.name := by decide
  have idle : start.Idle := ⟨rfl, rfl⟩
  have alike := firstArgument_forgetful.answeredAlike exampleB start
    (runAll firstArgument [exampleA] start).final
  obtain ⟨added, grown, examples, lines⟩ :=
    later_example_unaffected_but_by_orphans firstArgument different idle alike
  have once : (alone.observedAt "B" "a" 8 0).length = 1 := by decide +kernel
  refine ⟨different, idle, alike, examples, once, fun index => (lines "a" 8 index).2 ?_⟩
  have orphan : added = [("a", 6)] := by
    have before : start.report.linesFor "B" = [("a", 8)] := by decide +kernel
    have after : (runAll firstArgument [exampleA] start).final.report.linesFor "B" =
        [("a", 8), ("a", 6)] := by decide +kernel
    have gained := grown.lines "B"
    rw [before, after] at gained
    exact (List.perm_singleton.mp gained.cons_inv.symm)
  have events : ∀ event ∈ eventsOf firstArgument exampleB start,
      event.site = ⟨event.firing.uri, event.firing.line⟩ :=
    List.forall_mem_cons.mpr ⟨rfl, List.forall_mem_singleton.mpr rfl⟩
  intro event member here place inside
  obtain rfl : place = ("a", 6) := by simpa [orphan] using inside
  rw [events event member, ← (Prod.mk.inj here).1, ← (Prod.mk.inj here).2]
  decide

/-- The interpreter answers alike whatever was run, and yet the first example changes what the
    second observes. -/
theorem earlier_example_adds_a_trigger_line :
    let start : Machine := { report := filteredPlan.report }
    Forgetful firstArgument ∧ filteredPlan.examples = [exampleA, exampleB] ∧
      start.report.linesFor "B" = [("a", 8)] ∧
      (runAll firstArgument [exampleA] start).final.report.linesFor "B" =
        [("a", 8), ("a", 6)] ∧
      ((runAll firstArgument [exampleB] start).final.report.observedAt
        "B" "a" 6 0).length = 0 ∧
      ((runAll firstArgument [exampleA, exampleB] start).final.report.observedAt
        "B" "a" 6 0).length = 1 := ⟨firstArgument_forgetful, by decide +kernel⟩

end OrphanLeft

end Run
end ExampleProbes
