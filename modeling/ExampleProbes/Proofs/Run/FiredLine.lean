import ExampleProbes.Guest.Script
import ExampleProbes.Proofs.Report.LineOrder
import ExampleProbes.Proofs.Run.Striking

/-!
One firing, and any number of them. A firing asks the paused program what the probes of its
line have to ask for the example, hangs on nothing else that the program could answer, and
changes the records of that line alone. On a line that no probe claims the firings leave one
orphan record, whichever examples they belong to, with all their values in order.
-/
namespace ExampleProbes

namespace Probe

/-- What the paused program is asked for the example called `name`, probe by probe. -/
def questions (name : String) (probes : List Probe) : List String :=
  (probes.filter (·.appliesTo name)).filterMap question?

theorem questions_cons (name : String) (probe : Probe) (rest : List Probe) :
    questions name (probe :: rest) =
      (if probe.appliesTo name then probe.question?.toList else []) ++ questions name rest := by
  unfold questions
  by_cases applies : probe.appliesTo name
  · cases asks : probe.question? <;> simp [applies, asks]
  · simp [applies]

/-- What a probe makes of a firing hangs on the answer to its own question and on no other. -/
theorem evaluate_of_answer {probe : Probe} {firing : Firing} {answers : String → Outcome}
    (agree : ∀ question ∈ probe.question?, answers question = firing.ask question) :
    probe.evaluate { firing with ask := answers } = probe.evaluate firing := by
  cases probe with
  | ofExample | statement | orphan => rfl
  | expression only trigger line source => simp [evaluate_eq, agree source rfl]
  | selection trigger source => simp [evaluate_eq, agree source rfl]
  | assertion only trigger line source isExpectedValue =>
    simp [evaluate_eq, agree source rfl]

end Probe

/-- From `before` to `after` nothing changed but the records of one line; `added` are the
    trigger lines that its file gained, behind those that it had. -/
structure Report.AlteredAt (uri : String) (line : Nat) (added : List Nat)
    (before after : Report) : Prop where
  headings : after.headings = before.headings
  examples : ∀ other, after.examplesIn other = before.examplesIn other
  elsewhere : ∀ place : String × Nat, place ≠ (uri, line) →
    after.recordsAt place.1 place.2 = before.recordsAt place.1 place.2
  lines : ∀ other, after.linesIn other = before.linesIn other ++ if other = uri then added else []

namespace Report
variable {uri : String} {line : Nat}

theorem alteredAt_forward (uri : String) (line : Nat) :
    Course.Forward (AlteredAt uri line []) where
  refl _ := ⟨rfl, fun _ => rfl, fun _ _ => rfl, by simp⟩
  trans first second := by
    constructor
    · rw [second.headings, first.headings]
    · intro other
      rw [second.examples, first.examples]
    · intro place apart
      rw [second.elsewhere place apart, first.elsewhere place apart]
    · intro other
      rw [second.lines, first.lines]
      simp

theorem observe_altered (index : Nat) (name : String) (made : Observation) (report : Report) :
    AlteredAt uri line [] report (report.observe uri line index name made) where
  headings := headings_modifyFile uri report (·.observe line index name made) fun _ => ⟨rfl, rfl⟩
  examples other := examplesIn_observe uri line index name made other report
  elsewhere place apart := recordsAt_observe_of_ne uri line index name made apart report
  lines other := by
    have kept := linesIn_modifyFile uri report (·.observe line index name made) (fun _ => rfl)
      other fun file => Ledger.keys_modify line _ file.lines
    rw [observe, kept]
    simp

/-- The trigger lines of a file in a sound report are its lines with records. -/
theorem Sound.mem_linesIn_iff {report : Report} (sound : report.Sound) :
    line ∈ report.linesIn uri ↔ report.recordsAt uri line ≠ [] := by
  cases found : report.file? uri with
  | none => simp [linesIn, recordsAt, found]
  | some file =>
    have filled := (sound.files file (mem_of_file? found).1).filled
    have empty := FileReport.recordsOn_eq_nil_iff filled line
    simp [linesIn, recordsAt, found, empty]

theorem Sound.line_ne_zero {report : Report} (sound : report.Sound)
    (claimed : report.recordsAt uri line ≠ []) : line ≠ 0 := by
  have known := sound.mem_linesIn_iff.mpr claimed
  cases found : report.file? uri with
  | none => simp [linesIn, found] at known
  | some file =>
    have member : line ∈ file.lines.keys := by simpa [linesIn, found] using known
    obtain ⟨entry, inside, rfl⟩ := List.mem_map.mp member
    have numbered := (sound.files file (mem_of_file? found).1).numbered entry inside
    omega

theorem observeOrphan_altered {report : Report} (sound : report.Sound)
    (heard : report.Heard uri line) (unclaimed : report.recordsAt uri line = []) (name : String)
    (made : Observation) :
    AlteredAt uri line [line] report (report.observeOrphan uri line name made) where
  headings := headings_modifyFile uri report (·.addOrphan line name made) fun _ => ⟨rfl, rfl⟩
  examples other := examplesIn_observeOrphan uri line name made other report
  elsewhere place apart := recordsAt_observeOrphan_of_ne uri line name made apart report
  lines other := by
    have claim := linesIn_claim uri report (·.addOrphan line name made) (fun _ => rfl) other line
      fun file => Ledger.keys_upsert line _ _ file.lines
    have fresh : line ∉ report.linesIn uri := fun known => sound.mem_linesIn_iff.mp known unclaimed
    have claims : report.claim? uri line = some (uri, line) := if_pos heard
    rw [if_neg heard.1, claims] at claim
    rw [observeOrphan, claim]
    by_cases here : other = uri
    · simp [here, fresh]
    · simp [here, Ne.symm here]

end Report

/-- From `start` to `now` the paused program was asked the questions, and no other call was
    made; the hooks are the same. -/
structure Machine.Asked (questions : List String) (start now : Machine) : Prop where
  calls : now.calls = start.calls ++ questions.map .live
  hooks : now.hooks = start.hooks
  attached : now.attached = start.attached
  held : now.held = start.held

namespace Machine
open Report

theorem Asked.trans {first second : List String} {a b c : Machine} (before : Asked first a b)
    (after : Asked second b c) : Asked (first ++ second) a c where
  calls := by rw [after.calls, before.calls, List.map_append, List.append_assoc]
  hooks := after.hooks.trans before.hooks
  attached := after.attached.trans before.attached
  held := after.held.trans before.held

section Fire
variable (name : String) (firing : Firing)

theorem fireProbe_asked (machine : Machine) (index : Nat) (probe : Probe) :
    Asked (if probe.appliesTo name then probe.question?.toList else []) machine
      (machine.fireProbe name firing index probe) := by
  rw [fireProbe_eq]
  unfold ask
  by_cases applies : probe.appliesTo name
  · cases asks : probe.question? <;> constructor <;> simp [applies, change, log]
  · constructor <;> simp [applies]

theorem fireProbes_asked (machine : Machine) (index : Nat) (probes : List Probe) :
    Asked (Probe.questions name probes) machine
      (machine.fireProbes name firing index probes) := by
  induction probes generalizing machine index with
  | nil => constructor <;> simp [fireProbes, Probe.questions]
  | cons probe rest ih =>
    rw [Probe.questions_cons]
    exact (fireProbe_asked name firing machine index probe).trans (ih _ (index + 1))

/-- Where the answers to the questions of the probes agree, so do the firings. -/
theorem fireProbes_of_answers {answers : String → Outcome} {probes : List Probe}
    (agree : ∀ question ∈ Probe.questions name probes, answers question = firing.ask question)
    (machine : Machine) (index : Nat) :
    machine.fireProbes name { firing with ask := answers } index probes =
      machine.fireProbes name firing index probes := by
  induction probes generalizing machine index with
  | nil => rfl
  | cons probe rest ih =>
    rw [Probe.questions_cons, List.forall_mem_append] at agree
    obtain ⟨own, others⟩ := agree
    have first : machine.fireProbe name { firing with ask := answers } index probe =
        machine.fireProbe name firing index probe := by
      rw [fireProbe_eq, fireProbe_eq]
      by_cases applies : probe.appliesTo name
      · rw [if_pos applies] at own
        have same : probe.evaluate { firing with ask := answers } = probe.evaluate firing :=
          Probe.evaluate_of_answer fun question asked => own question (by simpa using asked)
        simp [applies, same]
      · simp [applies]
    rw [fireProbes, fireProbes, first, ih others]

end Fire

theorem fire_altered (name : String) {firing : Firing} {machine : Machine}
    (claimed : machine.report.recordsAt firing.uri firing.line ≠ []) :
    AlteredAt firing.uri firing.line [] machine.report (machine.fire name firing).report :=
  fire_advances_of_claimed name (alteredAt_forward firing.uri firing.line)
    (fun index observation report => observe_altered index name observation report) claimed

end Machine

namespace Record

/-- The orphan record of a line after all of `firings`, each with the name of its example. -/
structure OrphanOf (line : Nat) (firings : List (String × Firing)) (record : Record) : Prop where
  probe : record.probe = .orphan line
  names : record.observations.keys = (firings.map Prod.fst).eraseDups
  values : ∀ name, record.observed name = (firings.filter (·.1 == name)).map fun fired =>
    .ofOutcome fired.2.source fired.2.outcome

theorem OrphanOf.new (line : Nat) : OrphanOf line [] { probe := .orphan line } :=
  ⟨rfl, rfl, fun _ => rfl⟩

theorem OrphanOf.struck {line : Nat} {firings : List (String × Firing)} {record : Record}
    (orphan : OrphanOf line firings record) (name : String) (firing : Firing) :
    OrphanOf line (firings ++ [(name, firing)]) (record.struck name firing) := by
  have gains : record.struck name firing =
      record.add name (.ofOutcome firing.source firing.outcome) := by
    simp [Record.struck, orphan.probe, Probe.appliesTo, Probe.only?, Probe.evaluate_eq]
  rw [gains]
  constructor
  · exact orphan.probe
  · have keys := Ledger.keys_upsert name (· ++ [Observation.ofOutcome firing.source firing.outcome])
      [.ofOutcome firing.source firing.outcome] record.observations
    rw [add, keys, orphan.names, List.map_append, List.map_singleton, eraseDups_concat]
    simp only [List.mem_eraseDups]
  · intro other
    by_cases same : name = other
    · simp [← same, orphan.values]
    · rw [observed_add_of_ne (Ne.symm same), orphan.values]
      simp [same]

end Record

/-- What firings leave on a line that no record claims: nothing where there are none, else one
    orphan record. -/
inductive LeftOn (line : Nat) : List (String × Firing) → List Record → Prop where
  | nothing : LeftOn line [] []
  | orphan {firings : List (String × Firing)} {record : Record} (fired : firings ≠ [])
      (orphan : record.OrphanOf line firings) : LeftOn line firings [record]

theorem LeftOn.struck {line : Nat} {firings : List (String × Firing)} {records : List Record}
    (left : LeftOn line firings records) (name : String) (firing : Firing) :
    LeftOn line (firings ++ [(name, firing)])
      ((claimed line records).map (Record.struck name firing)) := by
  have fired : firings ++ [(name, firing)] ≠ [] := by simp
  cases left with
  | nothing => exact .orphan fired ((Record.OrphanOf.new line).struck name firing)
  | orphan _ orphan =>
    rw [claimed_of_ne_nil (List.cons_ne_nil _ _)]
    exact .orphan fired (orphan.struck name firing)

theorem LeftOn.single {line : Nat} {firings : List (String × Firing)} {records : List Record}
    (left : LeftOn line firings records) (fired : firings ≠ []) :
    ∃ record, records = [record] ∧ record.OrphanOf line firings := by
  cases left with
  | nothing => exact absurd rfl fired
  | orphan _ orphan => exact ⟨_, rfl, orphan⟩

namespace Machine
open Report

/-- Firings one after another, each with the name of the example that runs. -/
def fireAll (firings : List (String × Firing)) (machine : Machine) : Machine :=
  firings.foldl (fun m fired => m.fire fired.1 fired.2) machine

/-- The firings that happen on a line. -/
def firedAt (uri : String) (line : Nat) (firings : List (String × Firing)) :
    List (String × Firing) :=
  firings.filter fun fired => fired.2.uri = uri ∧ fired.2.line = line

theorem fireAll_uris (firings : List (String × Firing)) (machine : Machine) :
    (machine.fireAll firings).report.uris = machine.report.uris :=
  List.foldlRecOn (motive := fun m : Machine => m.report.uris = machine.report.uris) _ _ rfl
    fun m same fired _ => (fire_uris fired.1 fired.2 m).trans same

theorem fireAll_leaves {uri : String} {line : Nat} {machine : Machine}
    (heard : machine.report.Heard uri line) (unclaimed : machine.report.recordsAt uri line = [])
    (firings : List (String × Firing)) :
    LeftOn line (firedAt uri line firings)
      ((machine.fireAll firings).report.recordsAt uri line) := by
  induction firings using List.reverseRecOn with
  | nil =>
    have same : (machine.fireAll []).report.recordsAt uri line = [] := unclaimed
    rw [same]
    exact .nothing
  | append_singleton earlier fired ih =>
    obtain ⟨name, firing⟩ := fired
    have last : machine.fireAll (earlier ++ [(name, firing)]) =
        (machine.fireAll earlier).fire name firing := List.foldl_concat ..
    have split : firedAt uri line (earlier ++ [(name, firing)]) =
        firedAt uri line earlier ++ firedAt uri line [(name, firing)] := List.filter_append ..
    rw [last, split]
    by_cases here : firing.uri = uri ∧ firing.line = line
    · obtain ⟨rfl, rfl⟩ := here
      have stillHeard : (machine.fireAll earlier).report.Heard firing.uri firing.line := by
        refine ⟨heard.1, ?_⟩
        rw [fireAll_uris]
        exact heard.2
      have single : firedAt firing.uri firing.line [(name, firing)] = [(name, firing)] := by
        simp [firedAt]
      rw [single, fire_recordsAt name stillHeard]
      exact ih.struck name firing
    · have none : firedAt uri line [(name, firing)] = [] := by simpa [firedAt] using here
      have apart : (uri, line) ≠ (firing.uri, firing.line) := by
        intro same
        exact here ⟨(Prod.mk.inj same).1.symm, (Prod.mk.inj same).2.symm⟩
      rw [none, List.append_nil, fire_recordsAt_of_ne name firing apart]
      exact ih

section Reached
variable {name : String} {firing : Firing} {machine : Machine}

theorem fire_asked (sound : machine.report.Sound) (name : String) (firing : Firing) :
    Asked (Probe.questions name (machine.report.probesAt firing.uri firing.line)) machine
      (machine.fire name firing) := by
  by_cases claimed : machine.report.recordsAt firing.uri firing.line = []
  · have none : machine.report.probesAt firing.uri firing.line = [] := by
      rw [probesAt_eq, claimed]
      rfl
    rw [none]
    by_cases zero : firing.line = 0
    · rw [fire_of_not_heard name fun heard => heard.1 zero]
      exact ⟨by simp [Probe.questions], rfl, rfl, rfl⟩
    · rw [fire_of_unclaimed name zero claimed]
      exact ⟨by simp [Probe.questions, change], rfl, rfl, rfl⟩
  · rw [fire_of_claimed name (sound.line_ne_zero claimed) claimed]
    exact fireProbes_asked name firing machine 0 _

theorem fire_of_answers (sound : machine.report.Sound) {answers : String → Outcome}
    (agree : ∀ question ∈
      Probe.questions name (machine.report.probesAt firing.uri firing.line),
      answers question = firing.ask question) :
    machine.fire name { firing with ask := answers } = machine.fire name firing := by
  by_cases unclaimed : machine.report.recordsAt firing.uri firing.line = []
  · by_cases zero : firing.line = 0
    · have lost : ¬ machine.report.Heard firing.uri firing.line := fun heard => heard.1 zero
      calc machine.fire name { firing with ask := answers }
        _ = machine := fire_of_not_heard name lost
        _ = machine.fire name firing := (fire_of_not_heard name lost).symm
    · calc machine.fire name { firing with ask := answers }
        _ = machine.change _ := fire_of_unclaimed name zero unclaimed
        _ = machine.fire name firing := (fire_of_unclaimed name zero unclaimed).symm
  · have numbered := sound.line_ne_zero unclaimed
    calc machine.fire name { firing with ask := answers }
      _ = machine.fireProbes name { firing with ask := answers } 0
          (machine.report.probesAt firing.uri firing.line) :=
        fire_of_claimed name numbered unclaimed
      _ = machine.fireProbes name firing 0 (machine.report.probesAt firing.uri firing.line) :=
        fireProbes_of_answers name firing agree machine 0
      _ = machine.fire name firing := (fire_of_claimed name numbered unclaimed).symm

end Reached

section MixedLine

/-- A probe for another example, and three that ask the paused program. -/
def mixedLine : List Change :=
  [.file "a" "toy", .probe "a" 3 (.statement (some "other") 3),
    .probe "a" 3 (.expression none 3 2 "x"), .probe "a" 3 (.assertion (some "e") 3 3 "4" true),
    .probe "a" 3 (.selection 3 "y")]

def endOf (line : Nat) (text : String) : Firing :=
  ⟨"a", line, "x = " ++ text, .ok (.ofText text),
    Script.scope [("x", .ok (.ofText text)), ("4", .ok (.ofText "4"))]⟩

end MixedLine

end Machine

end ExampleProbes
