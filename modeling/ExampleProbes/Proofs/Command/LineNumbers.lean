import ExampleProbes.Proofs.Command.AcceptedChanges
import ExampleProbes.Proofs.Command.KeptReports
import ExampleProbes.Proofs.Report.Placement
import ExampleProbes.Report.ToJson

/-!
Line numbers all through an analysis. They come from the documents, from the selection and
from events, and count from 1 in a report and from 0 where it is shown. In every state each
record of a line is one that was planned there or an orphan, so that the line it is shown at
exists and is one less than the one it has.
-/
namespace ExampleProbes

/-- The lines of the records of a file, in an analysis of `documents` with `selection`. -/
structure FileReport.WellNumbered (documents : List Document) (selection : Option Selection)
    (file : FileReport) : Prop where
  shown : ∀ record ∈ file.records, ∃ index,
    record.toJson.field? "lineIndex" = some (.nat index) ∧ index + 1 = record.probe.reportLine
  stored : ∀ entry ∈ file.lines, ∀ record ∈ entry.2,
    entry.1 = record.probe.triggerLine ∧ 1 ≤ entry.1
  scanned : ∀ record ∈ file.records, record.probe.type = .probe ∨ record.probe.type = .assertion →
    record.probe.reportLine ≤ record.probe.triggerLine ∧
      ∃ document ∈ documents, document.uri = file.uri ∧
        record.probe.triggerLine ≤ document.lines.length
  selected : ∀ record ∈ file.records, record.probe.type = .selection →
    ∃ chosen, selection = some chosen ∧
      record.probe = .selection chosen.probeLine chosen.text ∧
      (chosen.line < maxLine →
        record.toJson.field? "lineIndex" = some (.nat chosen.line))

def Report.WellNumbered (documents : List Document) (selection : Option Selection)
    (report : Report) : Prop :=
  ∀ file ∈ report.files, file.WellNumbered documents selection

theorem Record.toJson_lineIndex (record : Record) :
    record.toJson.field? "lineIndex" = some (.nat (lineIndex record.probe.reportLine)) := rfl

theorem lineIndex_succ {line : Nat} (numbered : 1 ≤ line) : lineIndex line + 1 = line := by
  cases line with
  | zero => cases numbered
  | succ line => rfl

namespace Analysis

/-- The probes that have records in the list of the examples. -/
def Listed (probe : Probe) : Prop := ∃ e : Example, probe = .ofExample e ∧ 1 ≤ e.location.line

/-- The probes that have records on the lines of the file at an address. -/
inductive Placed (documents : List Document) (selection : Option Selection) (uri : String) :
    Nat → Probe → Prop where
  | scanned {document : Document} {probe : Probe} (among : document ∈ documents)
      (here : document.uri = uri) (found : probe ∈ (Annotations.ofDocument document).probes) :
      Placed documents selection uri probe.triggerLine probe
  | selected {chosen : Selection} (made : selection = some chosen) :
      Placed documents selection uri chosen.probeLine (.selection chosen.probeLine chosen.text)
  | orphan {line : Nat} (numbered : 1 ≤ line) : Placed documents selection uri line (.orphan line)

section Placed
variable {documents : List Document} {selection : Option Selection} {uri : String} {line : Nat}
  {probe : Probe}

theorem Placed.lines (placed : Placed documents selection uri line probe) :
    line = probe.triggerLine ∧ 1 ≤ probe.reportLine ∧ probe.reportLine ≤ line := by
  cases placed with
  | scanned among here found =>
    obtain ⟨_, first, shown, _⟩ := Annotations.ofDocument_scanned _ probe found
    exact ⟨rfl, first, shown⟩
  | @selected chosen made => exact ⟨rfl, one_le_nextLine chosen.line, Nat.le_refl _⟩
  | orphan numbered => exact ⟨rfl, numbered, Nat.le_refl _⟩

theorem Placed.scanned_of_type (placed : Placed documents selection uri line probe)
    (type : probe.type = .probe ∨ probe.type = .assertion) :
    ∃ document ∈ documents, document.uri = uri ∧ probe.triggerLine ≤ document.lines.length := by
  cases placed with
  | @scanned document _ among here found =>
    obtain ⟨_, _, _, inside⟩ := Annotations.ofDocument_scanned document probe found
    exact ⟨document, among, here, by omega⟩
  | selected | orphan => rcases type with type | type <;> cases type

theorem Placed.selected_of_type (placed : Placed documents selection uri line probe)
    (type : probe.type = .selection) :
    ∃ chosen, selection = some chosen ∧ probe = .selection chosen.probeLine chosen.text := by
  cases placed with
  | scanned among here found =>
    obtain ⟨written, _⟩ := Annotations.ofDocument_scanned _ probe found
    rcases written with written | written <;> rw [type] at written <;> cases written
  | @selected chosen made => exact ⟨chosen, made, rfl⟩
  | orphan => cases type

end Placed

/-- The records of an analysis are of examples, or placed. -/
def AllPlaced (documents : List Document) (selection : Option Selection) : Report → Prop :=
  Report.Holds (fun _ record => Listed record.probe)
    fun uri line record => Placed documents selection uri line record.probe

section AllPlaced
variable {documents : List Document} {selection : Option Selection} {report : Report}

theorem allPlaced_of_fired {name : String} {firing : Firing} {next : Report}
    (fired : Report.Fired name firing report next)
    (placed : AllPlaced documents selection report) : AllPlaced documents selection next := by
  cases fired with
  | recorded => exact Report.Holds.observe placed fun _ _ here => here
  | orphaned numbered =>
    exact Report.Holds.observeOrphan placed (.orphan (Nat.pos_of_ne_zero numbered))
      fun _ _ here => here

theorem planFor_allPlaced (documents : List Document) (target : Document)
    (selection : Option Selection) :
    AllPlaced documents selection (planFor documents target selection).report :=
  planFor_holds
    (fun document _ e member => ⟨e, rfl, Annotations.ofDocument_example_line document e member⟩)
    (fun _ among _ member => .scanned among rfl member) fun _ made => .selected made

theorem listed_or_placed (placed : AllPlaced documents selection report) {file : FileReport}
    (member : file ∈ report.files) {record : Record} (inside : record ∈ file.records) :
    Listed record.probe ∨ ∃ line, Placed documents selection file.uri line record.probe := by
  obtain ⟨examples, lines⟩ := placed file member
  rcases List.mem_append.mp inside with ofExample | onLine
  · exact Or.inl (examples record ofExample)
  · obtain ⟨entry, held, inEntry⟩ := List.mem_flatMap.mp onLine
    exact Or.inr ⟨entry.1, lines entry held record inEntry⟩

theorem one_le_reportLine {file : FileReport} {record : Record}
    (known : Listed record.probe ∨ ∃ line, Placed documents selection file.uri line record.probe) :
    1 ≤ record.probe.reportLine := by
  rcases known with ⟨e, same, numbered⟩ | ⟨line, here⟩
  · rw [same]
    exact numbered
  · exact here.lines.2.1

theorem lineIndex_of_selection {record : Record} {chosen : Selection} (short : chosen.line < maxLine)
    (same : record.probe = .selection chosen.probeLine chosen.text) :
    record.toJson.field? "lineIndex" = some (.nat chosen.line) := by
  have index : lineIndex record.probe.reportLine = chosen.line := by
    have first := lineIndex_succ (one_le_nextLine chosen.line)
    rw [same]
    show lineIndex (nextLine chosen.line) = chosen.line
    unfold nextLine at first ⊢
    omega
  rw [record.toJson_lineIndex, index]

theorem wellNumbered_of_allPlaced (placed : AllPlaced documents selection report) :
    report.WellNumbered documents selection := by
  intro file member
  have known : ∀ record ∈ file.records, Listed record.probe ∨
      ∃ line, Placed documents selection file.uri line record.probe :=
    fun record inside => listed_or_placed placed member inside
  constructor
  case shown =>
    intro record inside
    have first := one_le_reportLine (known record inside)
    exact ⟨_, record.toJson_lineIndex, lineIndex_succ first⟩
  case stored =>
    intro entry held record inEntry
    obtain ⟨stored, first, before⟩ := ((placed file member).lines entry held record inEntry).lines
    exact ⟨stored, by omega⟩
  case scanned =>
    intro record inside type
    rcases known record inside with ⟨e, same, _⟩ | ⟨line, here⟩
    · rw [same] at type
      rcases type with type | type <;> cases type
    · obtain ⟨rfl, _, before⟩ := here.lines
      exact ⟨before, here.scanned_of_type type⟩
  case selected =>
    intro record inside type
    rcases known record inside with ⟨e, same, _⟩ | ⟨line, here⟩
    · rw [same] at type
      cases type
    · obtain ⟨chosen, made, same⟩ := here.selected_of_type type
      exact ⟨chosen, made, same, fun short => lineIndex_of_selection short same⟩

end AllPlaced

/-- The selection that the arguments name, where they are accepted. -/
def selectionOf (arguments : List Json) : Option Selection :=
  match AnalysisArguments.of arguments with
  | .ok asked => asked.selection
  | .error _ => none

theorem run_allPlaced (interpreter : Interpreter) (ties : Ties) (settings : Settings)
    (documents : List Document) (arguments : List Json) (attached : Nat) (calls : List Call) :
    (run interpreter ties settings documents arguments ⟨{ attached, calls }, []⟩).Keeps
      (AllReports (AllPlaced documents (selectionOf arguments)))
      fun value session => AllReports (AllPlaced documents (selectionOf arguments)) session ∧
        ∀ report, value = .ok report → AllPlaced documents (selectionOf arguments) report := by
  refine run_keeps interpreter ties (fun _ _ _ _ => allPlaced_of_fired)
    (fun _ _ _ placed => Report.Holds.observeExample placed fun _ _ listed => listed)
    (fun plan accepted => ?_) .empty
  obtain ⟨asked, target, parsed, _, rfl⟩ := planFor_of_plan accepted
  have same : selectionOf arguments = asked.selection := by simp only [selectionOf, parsed]
  rw [same]
  exact planFor_allPlaced documents target asked.selection

/-- No place is taken up under line 0 where a document is read, and no change that an analysis
    attempts is refused, be it one of its plan or of a firing. In every state of an analysis
    each record has the line before its own as the one it is shown at, stands on its trigger
    line, and is shown no later than that, on a line of its document; a selection is shown
    where it was made. -/
theorem lines_numbered_throughout (interpreter : Interpreter) (ties : Ties) :
    (∀ document : Document,
      (Annotations.ofDocument document).misuse = none ∧
        ∀ p ∈ (Annotations.ofDocument document).probes, 1 ≤ p.reportLine ∧
          p.reportLine ≤ p.triggerLine ∧ p.triggerLine ≤ document.lines.length) ∧
    (∀ documents target selection,
      Change.Accepted (planChanges documents target selection) {}
        (planFor documents target selection).report) ∧
    (∀ name (firing : Firing) (machine : Machine),
      Change.Accepted (firing.changes name machine.report) machine.report
        (machine.fire name firing).report) ∧
    ∀ settings documents arguments attached calls,
      let analysis := run interpreter ties settings documents arguments ⟨{ attached, calls }, []⟩
      let numbered := Report.WellNumbered documents (selectionOf arguments)
      (∀ session ∈ analysis.states, numbered session.machine.report ∧
        ∀ push ∈ session.sent, numbered push.report) ∧
      ∀ report, analysis.value = .ok report → numbered report := by
  refine ⟨fun document => ⟨Annotations.ofDocument_misuse document, fun p member => ?_⟩,
    planChanges_accepted, firing_accepted, ?_⟩
  · obtain ⟨_, first, shown, inside⟩ := Annotations.ofDocument_scanned document p member
    exact ⟨first, shown, by omega⟩
  · intro settings documents arguments attached calls analysis numbered
    have keeps := run_allPlaced interpreter ties settings documents arguments attached calls
    have sees : ∀ session, AllReports (AllPlaced documents (selectionOf arguments)) session →
        numbered session.machine.report ∧ ∀ push ∈ session.sent, numbered push.report :=
      fun session placed => ⟨wellNumbered_of_allPlaced placed.1, fun push member =>
        wellNumbered_of_allPlaced (placed.2 push member)⟩
    refine ⟨fun session member => ?_, fun report same =>
      wellNumbered_of_allPlaced (keeps.ends.2 report same)⟩
    rcases keeps.states session member with seen | ⟨_, ended, _⟩
    · exact sees session seen
    · exact sees session ended

end Analysis
end ExampleProbes
