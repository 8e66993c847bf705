import Mathlib.Data.List.Forall2
import ExampleProbes.Guest.Script
import ExampleProbes.Proofs.Run.HookRelease
import ExampleProbes.Proofs.Run.Striking

/-!
How often an event is counted. Hooks are attached one for each trigger line of the running
example, but the interpreter may move several of these lines to one statement. Its events
are then passed on by every hook there, and each probe of the line that they report
observes them once for each hook.
-/
namespace ExampleProbes

namespace Record
variable {name : String} {firing : Firing} {before after : Record} {count other : Nat}

theorem Gained.count_unique (first : Gained count name firing before after)
    (second : Gained other name firing before after)
    (applies : before.probe.appliesTo name) : count = other := by
  have both := first.own.symm.trans second.own
  have same := congrArg List.length (List.append_cancel_left both)
  simpa [applies] using same

theorem Gained.of_not_applies (gained : Gained count name firing before after)
    (skipped : before.probe.appliesTo name = false) (other : Nat) :
    Gained other name firing before after :=
  ⟨gained.probe, gained.others, by simpa [skipped] using gained.own⟩

theorem gained_once_iff (count : Nat) (records : List Record) :
    List.Forall₂ (Gained 1 name firing) records
        (records.map (struck name firing)^[count]) ↔
      count = 1 ∨ ∀ record ∈ records, record.probe.appliesTo name = false := by
  rw [List.forall₂_map_right_iff, List.forall₂_same]
  constructor
  · intro once
    by_cases skipped : ∀ record ∈ records, record.probe.appliesTo name = false
    · exact Or.inr skipped
    · push Not at skipped
      obtain ⟨record, member, applies⟩ := skipped
      have gained := struck_iterate_gained name firing count record
      exact Or.inl (gained.count_unique (once record member) (by simpa using applies))
  · rintro (rfl | skipped) record member
    · exact struck_gained name firing record
    · have gained := struck_iterate_gained name firing count record
      exact gained.of_not_applies (skipped record member) 1

end Record

namespace Run
open Machine

/-- The machine when the events of `passed` have happened in the run of `e`. -/
def afterEvents (interpreter : Interpreter) (e : Example) (function : Value)
    (arguments : List Value) (start : Machine) (passed : List Event) : Machine :=
  passed.foldl (fun m event => m.strike event) (called interpreter e function arguments start)

section AfterEvents
variable (interpreter : Interpreter) (e : Example) (function : Value) (arguments : List Value)
  (start : Machine) (passed : List Event)

theorem afterEvents_hooks :
    (afterEvents interpreter e function arguments start passed).hooks =
      (called interpreter e function arguments start).hooks :=
  List.foldlRecOn (motive := fun m : Machine => m.hooks = _) _ _ rfl fun _ same event _ =>
    (strike_hooks event _).trans same

theorem strike_afterEvents (free : start.hooks = []) (event : Event) :
    (afterEvents interpreter e function arguments start passed).strike event =
      (·.fire e.name event.firing)^[hooksFor interpreter e start event.site]
        (afterEvents interpreter e function arguments start passed) := by
  have hooks := afterEvents_hooks interpreter e function arguments start passed
  have count := called_hooksOn interpreter e function arguments start free event.site
  have names := called_names interpreter e function arguments start free
  rw [← hooks] at names
  rw [strike_eq_iterate e.name event names, hooksOn, hooks, ← count, hooksOn]

end AfterEvents

/-- In a run of `earlier`, `e` and `later`, an event that reports a line with records is
    counted there once for each of the trigger lines whose hooks sit on its statement. It is
    counted once just where that is one line, or no record there is for `e`. -/
theorem event_counted_once_per_hook (interpreter : Interpreter) (earlier later : List Example)
    (e : Example) {origin : Machine} (idle : origin.Idle) {function : Value}
    {arguments : List Value} (entered : entry interpreter e
      (runAll interpreter earlier origin).final = .ok (function, arguments))
    {passed coming : List Event} {event : Event}
    (happens : (invocationOf interpreter e function arguments
      (runAll interpreter earlier origin).final).events = passed ++ event :: coming)
    (line : 1 ≤ event.firing.line)
    (probed : (afterEvents interpreter e function arguments
      (runAll interpreter earlier origin).final passed).report.probesAt
        event.firing.uri event.firing.line ≠ []) :
    let start := (runAll interpreter earlier origin).final
    let before := afterEvents interpreter e function arguments start passed
    let after := before.strike event
    let hooks := hooksFor interpreter e start event.site
    (runAll interpreter (earlier ++ e :: later) origin).final =
      (runAll interpreter later
        (((coming.foldl (fun m next => m.strike next) after).change
          (·.observeExample e (.ofOutcome e.signature.identifier
            (invocationOf interpreter e function arguments start).outcome))).release)).final ∧
    before.hooksOn event.site = hooks ∧
    List.Forall₂ (Record.Gained hooks e.name event.firing)
      (before.report.recordsAt event.firing.uri event.firing.line)
      (after.report.recordsAt event.firing.uri event.firing.line) ∧
    (List.Forall₂ (Record.Gained 1 e.name event.firing)
        (before.report.recordsAt event.firing.uri event.firing.line)
        (after.report.recordsAt event.firing.uri event.firing.line) ↔
      hooks = 1 ∨ ∀ probe ∈ before.report.probesAt event.firing.uri event.firing.line,
        probe.appliesTo e.name = false) := by
  intro start before after hooks
  have free : start.hooks = [] := (runAll_releases interpreter earlier idle).ends.idle.1
  have filled : before.report.recordsAt event.firing.uri event.firing.line ≠ [] := by
    rw [Report.probesAt_eq] at probed
    exact mt List.map_eq_nil_iff.mpr probed
  have heard : before.report.Heard event.firing.uri event.firing.line :=
    ⟨by omega, Report.mem_uris_of_recordsAt filled⟩
  have struck : after.report.recordsAt event.firing.uri event.firing.line =
      (before.report.recordsAt event.firing.uri event.firing.line).map
        (Record.struck e.name event.firing)^[hooks] := by
    have fires : after = (·.fire e.name event.firing)^[hooks] before :=
      strike_afterEvents interpreter e function arguments start passed free event
    rw [fires]
    exact iterate_fire_recordsAt e.name hooks heard filled
  refine ⟨?_, ?_, ?_, ?_⟩
  · have run := runExample_entered entered
    rw [happens, List.foldl_append, List.foldl_cons] at run
    rw [runAll_append_final, runAll_cons_final, run]
    rfl
  · rw [hooksOn, afterEvents_hooks]
    exact called_hooksOn interpreter e function arguments start free event.site
  · rw [struck, List.forall₂_map_right_iff, List.forall₂_same]
    exact fun record _ => Record.struck_iterate_gained e.name event.firing hooks record
  · rw [struck, Record.gained_once_iff, Report.probesAt_eq]
    simp

section TwoLines

def callable (name : String) : Value := { display := .ok name, has := (· == .executable) }

def lineFour : Event := ⟨0, ⟨"a", 4⟩, ⟨"a", 4, "x = 1", .ok (.ofText "1"), Script.scope []⟩⟩

/-- The hooks for lines 3 and 4 both go to the statement on line 4, which ends once. -/
def twoLines : Script where
  globals := [("toy", [("f", .ok (callable "f"))])]
  snaps := [(⟨"a", 3⟩, .ok 4)]
  invocations := [("f", [⟨[lineFour], 0, .ok (.ofText "1")⟩])]

def callsF (name : String) : Example := ⟨name, ⟨"a", "toy", 1⟩, ⟨"f", []⟩, []⟩

def twoProbes : Report :=
  (((({} : Report).register "a" "toy").addExample (callsF "e")).addProbe "a" 3
    (.statement none 3)).addProbe "a" 4 (.statement none 4)

theorem two_lines_counted_per_hook :
    let before := afterEvents twoLines.interpreter (callsF "e") (callable "f") []
      { report := twoProbes } []
    List.Forall₂ (Record.Gained 2 "e" lineFour.firing) (before.report.recordsAt "a" 4)
        ((before.strike lineFour).report.recordsAt "a" 4) ∧
      ¬ List.Forall₂ (Record.Gained 1 "e" lineFour.firing) (before.report.recordsAt "a" 4)
        ((before.strike lineFour).report.recordsAt "a" 4) := by
  intro before
  have hooks : hooksFor twoLines.interpreter (callsF "e") { report := twoProbes } ⟨"a", 4⟩ = 2 := by
    decide
  have admitted : ¬ ∀ probe ∈ before.report.probesAt "a" 4, probe.appliesTo "e" = false := by
    decide
  obtain ⟨_, _, counted, once⟩ := @event_counted_once_per_hook twoLines.interpreter [] []
    (callsF "e") { report := twoProbes } ⟨rfl, rfl⟩ (callable "f") [] rfl [] [] lineFour rfl
    (by decide) (by decide)
  refine ⟨hooks ▸ counted, fun single => ?_⟩
  rcases once.mp single with one | none
  · exact absurd (hooks.symm.trans one) (by decide)
  · exact admitted none

theorem shared_statement_counted_twice :
    (invocationOf twoLines.interpreter (callsF "e") (callable "f") [] {}).events = [lineFour] ∧
    ((runAll twoLines.interpreter [callsF "e"] { report := twoProbes }).final.report.recordsAt
      "a" 4).map (fun record => (record.observed "e").length) = [2] :=
  ⟨rfl, by decide⟩

end TwoLines

end Run
end ExampleProbes
