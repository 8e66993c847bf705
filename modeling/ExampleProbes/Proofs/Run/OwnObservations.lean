import ExampleProbes.Proofs.Run.HookRelease
import ExampleProbes.Proofs.Run.Striking

/-!
What the run of one example leaves in a report under its own name and under others. Under
its own name each probe for it gains what it makes of the events that report its line, each
as often as hooks of the example sit on the statement; and the record of the example gains
the outcome. Under every other name nothing changes.
-/
namespace ExampleProbes

namespace Report

/-- What a line shows to the example called `name`. A line without records shows the orphan
    that would claim it. -/
def viewFor (name uri : String) (line : Nat) (report : Report) :
    List (Probe × List Observation) :=
  (claimed line (report.recordsAt uri line)).map fun record =>
    (record.probe, record.observed name)

def observedAt (name uri : String) (line index : Nat) (report : Report) : List Observation :=
  ((report.recordsAt uri line)[index]?.map (·.observed name)).getD []

def exampleViewFor (name uri : String) (report : Report) : List (Probe × List Observation) :=
  (report.examplesIn uri).map fun record => (record.probe, record.observed name)

theorem observedAt_eq (name uri : String) (line index : Nat) (report : Report) :
    report.observedAt name uri line index =
      ((report.viewFor name uri line)[index]?.map Prod.snd).getD [] := by
  unfold observedAt viewFor
  cases report.recordsAt uri line with
  | nil => cases index <;> simp [claimed, Record.observed, Ledger.get?]
  | cons record rest =>
    rw [claimed_of_ne_nil (List.cons_ne_nil record rest), List.getElem?_map, Option.map_map]
    rfl

theorem viewFor_congr {left right : Report} {uri : String} {line : Nat}
    (same : left.recordsAt uri line = right.recordsAt uri line) (name : String) :
    left.viewFor name uri line = right.viewFor name uri line := by
  unfold viewFor
  rw [same]

end Report

def extend (more : Probe → List Observation) (shown : Probe × List Observation) :
    Probe × List Observation := (shown.1, shown.2 ++ more shown.1)

theorem map_extend_nil (view : List (Probe × List Observation)) :
    view.map (extend fun _ => []) = view := by
  have same : (extend fun _ => []) = id := by
    funext shown
    simp [extend]
  rw [same, List.map_id]

theorem map_extend_extend (first second : Probe → List Observation)
    (view : List (Probe × List Observation)) :
    (view.map (extend first)).map (extend second) =
      view.map (extend fun probe => first probe ++ second probe) := by
  rw [List.map_map]
  refine List.map_congr_left fun shown _ => ?_
  simp [extend]

/-- What a probe of a line makes of events, each passed on by the hooks at its site. -/
def collected (hooks : Site → Nat) (name uri : String) (line : Nat) (events : List Event)
    (probe : Probe) : List Observation :=
  events.flatMap fun event =>
    if (uri, line) = (event.firing.uri, event.firing.line) ∧ probe.appliesTo name then
      List.replicate (hooks event.site) (probe.evaluate event.firing)
    else []

namespace Machine
open Report

theorem iterate_fire_viewFor (name : String) {firing : Firing} (count : Nat) {machine : Machine}
    (heard : machine.report.Heard firing.uri firing.line) :
    ((·.fire name firing)^[count] machine).report.viewFor name firing.uri firing.line =
      (machine.report.viewFor name firing.uri firing.line).map
        (extend fun probe =>
          List.replicate (if probe.appliesTo name then count else 0) (probe.evaluate firing)) := by
  unfold viewFor
  rw [iterate_fire_claimed name count heard, List.map_map, List.map_map]
  refine List.map_congr_left fun record _ => ?_
  have gained := Record.struck_iterate_gained name firing count record
  simp only [Function.comp_apply, extend, gained.probe, gained.own]

-- A line that is claimed only now has shown its orphan before, so that nothing changes here.
theorem iterate_fire_viewFor_other {name other : String} (different : other ≠ name)
    (firing : Firing) (count : Nat) (machine : Machine) (uri : String) (line : Nat) :
    ((·.fire name firing)^[count] machine).report.viewFor other uri line =
      machine.report.viewFor other uri line := by
  refine iterate_fire_kept name firing count machine
    (·.viewFor other uri line = machine.report.viewFor other uri line) (fun m same => ?_) rfl
  rw [← same]
  by_cases heard : m.report.Heard uri line
  · by_cases here : (uri, line) = (firing.uri, firing.line)
    · obtain ⟨rfl, rfl⟩ := Prod.mk.inj here
      have nonempty := claimed_ne_nil firing.line (m.report.recordsAt firing.uri firing.line)
      unfold viewFor
      rw [fire_recordsAt name heard, claimed_of_ne_nil (by simpa using nonempty), List.map_map]
      refine List.map_congr_left fun record _ => ?_
      have gained := Record.struck_gained name firing record
      simp only [Function.comp_apply, gained.probe, gained.others other different]
    · exact viewFor_congr (fire_recordsAt_of_ne name firing here m) other
  · exact viewFor_congr (fire_recordsAt_of_not_heard name firing heard) other

theorem strike_viewFor {name : String} {machine : Machine}
    (names : ∀ hook ∈ machine.hooks, hook.name = name) (event : Event) {uri : String}
    {line : Nat} (heard : machine.report.Heard uri line) :
    (machine.strike event).report.viewFor name uri line =
      (machine.report.viewFor name uri line).map
        (extend (collected machine.hooksOn name uri line [event])) := by
  rw [strike_eq_iterate name event names]
  by_cases here : (uri, line) = (event.firing.uri, event.firing.line)
  · obtain ⟨rfl, rfl⟩ := Prod.mk.inj here
    rw [iterate_fire_viewFor name _ heard]
    congr 2
    funext probe
    by_cases applies : probe.appliesTo name <;> simp [collected, applies]
  · rw [viewFor_congr (iterate_fire_recordsAt_of_ne name _ here) name]
    have nothing : collected machine.hooksOn name uri line [event] = fun _ => [] := by
      funext probe
      simp only [collected, here, false_and, List.flatMap_cons, ↓reduceIte]
      rfl
    rw [nothing, map_extend_nil]

theorem foldl_strike_viewFor {name : String} (events : List Event) {machine : Machine}
    (names : ∀ hook ∈ machine.hooks, hook.name = name) {uri : String} {line : Nat}
    (heard : machine.report.Heard uri line) :
    (events.foldl (fun m event => m.strike event) machine).report.viewFor name uri line =
      (machine.report.viewFor name uri line).map
        (extend (collected machine.hooksOn name uri line events)) := by
  induction events generalizing machine with
  | nil => exact (map_extend_nil _).symm
  | cons event rest ih =>
    have hooks := strike_hooks event machine
    have next : (machine.strike event).report.Heard uri line :=
      ⟨heard.1, (strike_uris event machine).symm ▸ heard.2⟩
    have later := ih (hooks ▸ names) next
    have same : (machine.strike event).hooksOn = machine.hooksOn := by
      unfold hooksOn
      rw [hooks]
    rw [List.foldl_cons, later, strike_viewFor names event heard, map_extend_extend, same]
    congr 2
    funext probe
    simp [collected]

theorem foldl_strike_recordsAt_of_not_heard (events : List Event) {machine : Machine}
    {uri : String} {line : Nat} (lost : ¬ machine.report.Heard uri line) :
    (events.foldl (fun m event => m.strike event) machine).report.recordsAt uri line =
      machine.report.recordsAt uri line := by
  induction events generalizing machine with
  | nil => rfl
  | cons event rest ih =>
    have still : ¬ (machine.strike event).report.Heard uri line := fun heard =>
      lost ⟨heard.1, strike_uris event machine ▸ heard.2⟩
    rw [List.foldl_cons, ih still, strike_recordsAt_of_not_heard event lost]

theorem foldl_strike_viewFor_other {name other : String} (different : other ≠ name)
    (events : List Event) {machine : Machine} (names : ∀ hook ∈ machine.hooks, hook.name = name)
    (uri : String) (line : Nat) :
    (events.foldl (fun m event => m.strike event) machine).report.viewFor other uri line =
      machine.report.viewFor other uri line := by
  induction events generalizing machine with
  | nil => rfl
  | cons event rest ih =>
    have next : ∀ hook ∈ (machine.strike event).hooks, hook.name = name :=
      strike_hooks event machine ▸ names
    rw [List.foldl_cons, ih next, strike_eq_iterate name event names,
      iterate_fire_viewFor_other different]

theorem foldl_strike_examplesIn (events : List Event) (uri : String) (machine : Machine) :
    (events.foldl (fun m event => m.strike event) machine).report.examplesIn uri =
      machine.report.examplesIn uri :=
  List.foldlRecOn
    (motive := fun m : Machine => m.report.examplesIn uri = machine.report.examplesIn uri) _ _ rfl
    fun m same event _ => (strike_examplesIn event uri m).trans same

end Machine

namespace Run
open Machine Report
variable (interpreter : Interpreter) (e : Example) {start : Machine}

/-- What happens when the example calls its function, if it is entered. -/
def callOf (start : Machine) : Option Invocation :=
  match entry interpreter e start with
  | .ok (function, arguments) => some (invocationOf interpreter e function arguments start)
  | .error _ => none

def eventsOf (start : Machine) : List Event := ((callOf interpreter e start).map (·.events)).getD []

def endingOf (start : Machine) : Observation :=
  match entry interpreter e start with
  | .ok (function, arguments) =>
    .ofOutcome e.signature.identifier (invocationOf interpreter e function arguments start).outcome
  | .error (source, fault) => .ofFault source fault

/-- The machine in which the events of the example begin, if it is entered. -/
def begun (start : Machine) : Machine :=
  match entry interpreter e start with
  | .ok (function, arguments) => called interpreter e function arguments start
  | .error _ => start

def passedBy (start : Machine) : Machine :=
  (eventsOf interpreter e start).foldl (fun m event => m.strike event) (begun interpreter e start)

theorem begun_report (start : Machine) : (begun interpreter e start).report = start.report := by
  unfold begun
  split
  · exact called_report ..
  · rfl

theorem begun_names (free : start.hooks = []) :
    ∀ hook ∈ (begun interpreter e start).hooks, hook.name = e.name := by
  unfold begun
  split
  · exact called_names interpreter e _ _ start free
  · simp [free]

theorem collected_begun (free : start.hooks = []) (uri : String) (line : Nat) :
    collected (begun interpreter e start).hooksOn e.name uri line (eventsOf interpreter e start) =
      collected (hooksFor interpreter e start) e.name uri line
        (eventsOf interpreter e start) := by
  cases outcome : entry interpreter e start with
  | error refusal =>
    have none : eventsOf interpreter e start = [] := by simp [eventsOf, callOf, outcome]
    rw [none]
    rfl
  | ok both =>
    have hooks : (begun interpreter e start).hooksOn = hooksFor interpreter e start := by
      funext site
      simp only [begun, outcome]
      exact called_hooksOn interpreter e _ _ start free site
    rw [hooks]

theorem runExample_report (start : Machine) :
    (runExample interpreter e start).final.report =
      (passedBy interpreter e start).report.observeExample e (endingOf interpreter e start) := by
  cases outcome : entry interpreter e start with
  | error refusal =>
    obtain ⟨now, consulted, final⟩ := runExample_refused outcome
    rw [final]
    simp [change, consulted.report, passedBy, begun, endingOf, eventsOf, callOf, outcome]
  | ok both =>
    rw [runExample_entered outcome]
    simp [release_eq, change, passedBy, begun, endingOf, eventsOf, callOf, outcome]

theorem runExample_viewFor_own (free : start.hooks = []) {uri : String} {line : Nat}
    (heard : start.report.Heard uri line) :
    (runExample interpreter e start).final.report.viewFor e.name uri line =
      (start.report.viewFor e.name uri line).map
        (extend (collected (hooksFor interpreter e start) e.name uri line
          (eventsOf interpreter e start))) := by
  have report := begun_report interpreter e start
  have names := begun_names interpreter e free
  rw [runExample_report, viewFor_congr (recordsAt_observeExample ..), passedBy,
    foldl_strike_viewFor _ names (by rwa [report]), report, collected_begun interpreter e free]

theorem runExample_viewFor_other (free : start.hooks = []) {other : String}
    (different : other ≠ e.name) (uri : String) (line : Nat) :
    (runExample interpreter e start).final.report.viewFor other uri line =
      start.report.viewFor other uri line := by
  have names := begun_names interpreter e free
  rw [runExample_report, viewFor_congr (recordsAt_observeExample ..), passedBy,
    foldl_strike_viewFor_other different _ names, begun_report]

theorem runExample_recordsAt_of_not_heard {uri : String} {line : Nat}
    (lost : ¬ start.report.Heard uri line) :
    (runExample interpreter e start).final.report.recordsAt uri line =
      start.report.recordsAt uri line := by
  have report := begun_report interpreter e start
  rw [runExample_report, recordsAt_observeExample, passedBy,
    foldl_strike_recordsAt_of_not_heard _ (by rwa [report]), report]

theorem passedBy_examplesIn (uri : String) :
    (passedBy interpreter e start).report.examplesIn uri = start.report.examplesIn uri := by
  rw [passedBy, foldl_strike_examplesIn, begun_report]

def isShownAt (location : Location) (shown : Probe × List Observation) : Bool :=
  FileReport.isAt location { probe := shown.1 }

theorem runExample_exampleViewFor_own (uri : String) :
    (runExample interpreter e start).final.report.exampleViewFor e.name uri =
      if uri = e.location.uri then
        modifyFirst (isShownAt e.location) (extend fun _ => [endingOf interpreter e start])
          (start.report.exampleViewFor e.name uri)
      else start.report.exampleViewFor e.name uri := by
  unfold exampleViewFor
  rw [runExample_report, examplesIn_observeExample, passedBy_examplesIn]
  split
  · have tested : ∀ record : Record, isShownAt e.location (record.probe, record.observed e.name) =
        FileReport.isAt e.location record := fun record => rfl
    refine map_modifyFirst_comm tested (fun record => ?_) _
    simp [extend]
  · rfl

theorem runExample_exampleViewFor_other {other : String} (different : other ≠ e.name)
    (uri : String) :
    (runExample interpreter e start).final.report.exampleViewFor other uri =
      start.report.exampleViewFor other uri := by
  unfold exampleViewFor
  rw [runExample_report, examplesIn_observeExample, passedBy_examplesIn]
  split
  · refine map_modifyFirst (fun record => ?_) _
    simp [Record.observed_add_of_ne different]
  · rfl

end Run
end ExampleProbes
