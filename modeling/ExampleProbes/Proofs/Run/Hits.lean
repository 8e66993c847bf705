import ExampleProbes.Proofs.Report.Blank
import ExampleProbes.Proofs.Run.OwnObservations

/-!
What runs do to the blank report: a place that is hit gets an orphan where it has no record,
and nothing else. An example hits the places of those of its events that one of its hooks
hears, in the order in which they happen, and examples that run one after another what each
of them hits.
-/
namespace ExampleProbes

namespace Report

/-- A blank report after something was fired at a place. -/
def hit (report : Report) (place : String × Nat) : Report :=
  report.modifyFile place.1 (·.claiming place.2)

theorem hit_hit (report : Report) (place : String × Nat) :
    (report.hit place).hit place = report.hit place := by
  unfold hit
  rw [modifyFile_modifyFile (FileReport.claiming_uri place.2)]
  congr 1
  funext file
  exact FileReport.claiming_claiming place.2 file

theorem files_foldl_hit (places : List (String × Nat)) {report : Report}
    (distinct : report.uris.Nodup) :
    (places.foldl hit report).files = report.files.map fun file =>
      (Change.linesOf file.uri places).foldl (fun f line => f.claiming line) file := by
  have hits := @files_foldl_modifyFile _ Prod.fst (fun place : String × Nat => (·.claiming place.2))
    (fun place => FileReport.claiming_uri place.2) places report distinct
  simp only [Change.linesOf, List.foldl_map]
  exact hits

theorem file?_blank (uri : String) (report : Report) :
    report.blank.file? uri = (report.file? uri).map FileReport.blank := by
  unfold file? blank
  rw [List.find?_map]
  rfl

theorem hit_of_claimed {report : Report} {place : String × Nat}
    (lost : place.2 = 0 ∨ report.recordsAt place.1 place.2 ≠ []) :
    report.blank.hit place = report.blank := by
  apply modifyFile_of_fixed
  intro file found
  rw [file?_blank] at found
  obtain ⟨source, stands, rfl⟩ := Option.map_eq_some_iff.mp found
  unfold FileReport.claiming
  rw [if_neg]
  rintro ⟨numbered, empty⟩
  rw [FileReport.recordsOn_blank, List.map_eq_nil_iff] at empty
  rcases lost with zero | filled
  · exact numbered zero
  · exact filled (by simp [recordsAt, stands, empty])

theorem blank_observeOrphan {uri : String} {line : Nat} {report : Report} (numbered : line ≠ 0)
    (unclaimed : report.recordsAt uri line = []) (name : String) (made : Observation) :
    (report.observeOrphan uri line name made).blank = report.blank.hit (uri, line) := by
  apply blank_modifyFile
  intro file found
  have empty : file.recordsOn line = [] := by simpa [recordsAt, found] using unclaimed
  have none : file.blank.recordsOn line = [] := by simp [FileReport.recordsOn_blank, empty]
  rw [FileReport.blank_addOrphan empty, FileReport.claiming, if_pos ⟨numbered, none⟩]

end Report

/-- The place that an event reports. -/
def Event.place (event : Event) : String × Nat := (event.firing.uri, event.firing.line)

namespace Machine
open Report

theorem blank_forward : Course.Forward fun a b : Report => b.blank = a.blank where
  refl _ := rfl
  trans first second := second.trans first

theorem fire_blank (name : String) (firing : Firing) (machine : Machine) :
    (machine.fire name firing).report.blank =
      machine.report.blank.hit (firing.uri, firing.line) := by
  by_cases zero : firing.line = 0
  · rw [hit_of_claimed (Or.inl zero), fire_of_not_heard name fun heard => heard.1 zero]
  · by_cases unclaimed : machine.report.recordsAt firing.uri firing.line = []
    · rw [fire_of_unclaimed name zero unclaimed]
      exact blank_observeOrphan zero unclaimed name (.ofOutcome firing.source firing.outcome)
    · rw [hit_of_claimed (Or.inr unclaimed)]
      exact fire_advances_of_claimed name blank_forward (fun _ _ _ => blank_observe ..) unclaimed

theorem foldl_fire_blank (firing : Firing) (hooks : List Hook) (machine : Machine) :
    (hooks.foldl (fun m hook => m.fire hook.name firing) machine).report.blank =
      if hooks = [] then machine.report.blank
      else machine.report.blank.hit (firing.uri, firing.line) := by
  induction hooks generalizing machine with
  | nil => rfl
  | cons hook rest ih =>
    rw [List.foldl_cons, ih, fire_blank, hit_hit]
    simp

theorem strike_blank (event : Event) (machine : Machine) :
    (machine.strike event).report.blank =
      if machine.hooksOn event.site = 0 then machine.report.blank
      else machine.report.blank.hit event.place := by
  rw [strike, foldl_fire_blank, hooksOn, List.countP_eq_length_filter]
  simp only [List.length_eq_zero_iff]
  rfl

theorem foldl_strike_blank (events : List Event) (machine : Machine) :
    (events.foldl (fun m event => m.strike event) machine).report.blank =
      ((events.filter fun event => machine.hooksOn event.site ≠ 0).map Event.place).foldl hit
        machine.report.blank := by
  induction events generalizing machine with
  | nil => rfl
  | cons event rest ih =>
    have hooks : ∀ site, (machine.strike event).hooksOn site = machine.hooksOn site := by
      intro site
      rw [hooksOn, strike_hooks, hooksOn]
    rw [List.foldl_cons, ih, strike_blank]
    simp only [hooks]
    by_cases silent : machine.hooksOn event.site = 0 <;> simp [silent]

end Machine

namespace Run
open Machine Report
variable (interpreter : Interpreter)

/-- The places hit in the run of an example, in the order of its events. -/
def hitsOf (e : Example) (start : Machine) : List (String × Nat) :=
  ((eventsOf interpreter e start).filter fun event =>
    hooksFor interpreter e start event.site ≠ 0).map Event.place

def hitsIn : List Example → Machine → List (String × Nat)
  | [], _ => []
  | e :: rest, start =>
    hitsOf interpreter e start ++ hitsIn rest (runExample interpreter e start).final

theorem runExample_blank (e : Example) {start : Machine} (free : start.hooks = []) :
    (runExample interpreter e start).final.report.blank =
      (hitsOf interpreter e start).foldl hit start.report.blank := by
  rw [runExample_report, blank_observeExample, passedBy, foldl_strike_blank, begun_report, hitsOf]
  cases outcome : entry interpreter e start with
  | error refusal => simp [eventsOf, callOf, outcome]
  | ok both =>
    have hooks : ∀ site, (begun interpreter e start).hooksOn site =
        hooksFor interpreter e start site := by
      intro site
      simp only [begun, outcome]
      exact called_hooksOn interpreter e _ _ start free site
    simp only [hooks]

theorem runAll_blank (examples : List Example) {start : Machine} (idle : start.Idle) :
    (runAll interpreter examples start).final.report.blank =
      (hitsIn interpreter examples start).foldl hit start.report.blank := by
  induction examples generalizing start with
  | nil => rfl
  | cons e rest ih =>
    have next : (runExample interpreter e start).final.Idle :=
      (runExample_releases interpreter e idle).ends.idle
    rw [runAll_cons_final, ih next, runExample_blank interpreter e idle.1, hitsIn,
      List.foldl_append]

end Run
end ExampleProbes
