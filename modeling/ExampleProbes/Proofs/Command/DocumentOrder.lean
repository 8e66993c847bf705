import Mathlib.Data.List.Forall2
import ExampleProbes.Guest.Script
import ExampleProbes.Proofs.Command.LastNotification
import ExampleProbes.Proofs.Command.PlannedFiles
import ExampleProbes.Proofs.Run.Hits

/-!
The order of the answer. An analysis that runs to its end answers with one file for each
document, in the order of the documents. A file shows the examples of its document, then its
probes, each in the order of the document, and then the orphans of the lines that were fired
at and had no probe, in the order of the first firing.
-/
namespace ExampleProbes.Analysis
open Process Report

/-- What the file of a document shows when these lines were fired at. -/
def listed (selected : Option Selection) (document : Document) (fired : List Nat) : List Probe :=
  let found := Annotations.ofDocument document
  found.examples.map .ofExample ++ lineProbes selected found.probes ++
    (FileReport.orphaned (probedLines selected found.probes) fired).map .orphan

theorem probes_of_fired {selected : Option Selection} {document : Document} {fired : List Nat}
    {file : FileReport}
    (same : file.blank =
      fired.foldl (fun f line => f.claiming line) (plannedFile selected document).blank) :
    file.uri = document.uri ∧ file.languageId = document.languageId ∧
      file.records.map (·.probe) = listed selected document fired := by
  rw [FileReport.foldl_claiming fired
    (FileReport.filled_blank (plannedFile_filled selected document)), FileReport.keys_blank,
    FileReport.orphaned_congr (mem_plannedFile_keys selected document)] at same
  have uri : file.blank.uri = (plannedFile selected document).blank.uri := by rw [same]
  have language : file.blank.languageId = (plannedFile selected document).blank.languageId := by
    rw [same]
  refine ⟨uri.trans (plannedFile_uri selected document),
    language.trans (plannedFile_languageId selected document), ?_⟩
  rw [← FileReport.probes_blank, same, listed, ← plannedFile_examples selected document,
    ← plannedFile_lines selected document]
  simp [FileReport.records, FileReport.blank, Record.blank, List.map_flatMap, List.flatMap_map,
    Function.comp_def, ← List.map_eq_flatMap]

/-- A written file of a document: these probes, each with its type and the line where it is
    shown, counted from 0, and what it observed. -/
def Shows (document : Document) (probes : List Probe) (file : Json) : Prop :=
  ∃ shown : List (Probe × Json), shown.map Prod.fst = probes ∧
    file = .object [("uri", .string document.uri), ("languageId", .string document.languageId),
      ("probes", .array (shown.map fun entry =>
        .object [("probeType", .string entry.1.type.name),
          ("lineIndex", .nat (lineIndex entry.1.reportLine)), ("examples", entry.2)]))]

theorem shows_toJson {document : Document} {file : FileReport} (uri : file.uri = document.uri)
    (language : file.languageId = document.languageId) :
    Shows document (file.records.map (·.probe)) file.toJson := by
  refine ⟨file.records.map fun record => (record.probe,
    .array (record.observations.map fun entry =>
      .object [("exampleName", .string entry.1),
        ("observedValues", .array (entry.2.map Observation.toJson))])), ?_, ?_⟩
  · simp [Function.comp_def]
  · simp only [FileReport.toJson, uri, language, List.map_map, Function.comp_def]
    rfl

variable (interpreter : Interpreter) (ties : Ties)

theorem loadAll_consults (documents : List Document) (start : Machine) :
    start.Consulted (loadAll interpreter documents start).final :=
  (loadAll_advances interpreter Machine.Consulted.forward
    (fun m document => .log (.load document) m) documents start).final
    Machine.Consulted.forward

theorem work_final {documents : List Document} {examples : List Example} {start : Machine}
    (completed : (work interpreter documents examples start).value = .ok ()) :
    (work interpreter documents examples start).final =
      (Run.runAll interpreter examples (loadAll interpreter documents start).final).final := by
  simp only [work, bind_value, bind_final] at completed ⊢
  cases loaded : (loadAll interpreter documents start).value with
  | error failure =>
    rw [loaded] at completed
    cases completed
  | ok done => simp [bind_final]

/-- An analysis that runs to its end has loaded all documents and run all examples. -/
theorem report_of_completed {settings : Settings} {documents : List Document}
    {arguments : List Json} {plan : Plan}
    (accepted : Analysis.plan settings documents arguments = .ok plan) {machine : Machine}
    {report : Report}
    (completed :
      (run interpreter ties settings documents arguments ⟨machine, []⟩).value = .ok report) :
    report = (Run.runAll interpreter plan.examples (loadAll interpreter documents
      { machine with report := plan.report }).final).final.report := by
  obtain ⟨_, value, _⟩ := run_of_plan interpreter ties accepted machine
  rw [completed, workCourse_eq, Course.cut_value, Course.cut_final] at value
  split at value
  · cases ended : (wholeCourse interpreter documents plan machine).value with
    | error failure =>
      rw [ended] at value
      cases value
    | ok done =>
      rw [ended, wholeCourse, work_final interpreter ended] at value
      exact Except.ok.inj value
  · cases value

/-- Only an analysis that ran to its end answers with files. -/
theorem run_of_files {settings : Settings} {documents : List Document} {arguments : List Json}
    {machine : Machine} {reply : Registry.Reply} {files : Json}
    (dispatched : (Registry.standard interpreter ties settings).dispatch documents
      "babylonian_analysis" arguments machine = some reply)
    (completed : reply.answer.field? "files" = some files) :
    ∃ report, (run interpreter ties settings documents arguments ⟨machine, []⟩).value = .ok report ∧
      files = report.filesJson := by
  rw [dispatch_analysis interpreter ties settings documents arguments machine rfl
    (run_elapsed_le interpreter ties settings documents arguments machine)] at dispatched
  rw [← Option.some.inj dispatched] at completed
  simp only at completed
  cases outcome : (run interpreter ties settings documents arguments ⟨machine, []⟩).value with
  | error failure =>
    rw [outcome] at completed
    cases completed
  | ok report =>
    rw [outcome] at completed
    exact ⟨report, rfl, (Option.some.inj completed).symm⟩

/-- Runs that start from the files of a plan end with one file for each document. -/
theorem files_of_runs {documents : List Document} (distinct : (documents.map (·.uri)).Nodup)
    (target : Document) (selection : Option Selection) (examples : List Example) {start : Machine}
    (idle : start.Idle)
    (planned : start.report = (planFor documents target selection).report) :
    List.Forall₂
      (fun document file => file.blank =
        (Change.linesOf document.uri (Run.hitsIn interpreter examples start)).foldl
          (fun f line => f.claiming line)
          (plannedFile (selectedIn target selection document) document).blank)
      documents (Run.runAll interpreter examples start).final.report.files := by
  have addresses : start.report.blank.uris.Nodup := by
    rw [uris_blank, planned, uris, planFor_files distinct, List.map_map]
    simpa [Function.comp_def, plannedFile_uri] using distinct
  have blank : (Run.runAll interpreter examples start).final.report.files.map FileReport.blank =
      start.report.blank.files.map fun file =>
        (Change.linesOf file.uri (Run.hitsIn interpreter examples start)).foldl
          (fun f line => f.claiming line) file := by
    rw [← files_foldl_hit _ addresses, ← Run.runAll_blank interpreter examples idle]
    rfl
  have each : documents.map (fun document =>
      (Change.linesOf document.uri (Run.hitsIn interpreter examples start)).foldl
        (fun f line => f.claiming line)
        (plannedFile (selectedIn target selection document) document).blank) =
      (Run.runAll interpreter examples start).final.report.files.map FileReport.blank := by
    rw [blank, planned, Report.blank, planFor_files distinct, List.map_map, List.map_map]
    apply List.map_congr_left
    intro document _
    have uri : (plannedFile (selectedIn target selection document) document).blank.uri =
      document.uri := plannedFile_uri _ _
    rw [Function.comp_apply, Function.comp_apply, uri]
  have paired := List.forall₂_eq_eq_eq ▸ each
  rw [List.forall₂_map_left_iff, List.forall₂_map_right_iff] at paired
  exact paired.imp fun _ _ => Eq.symm

section TwoDocuments

def annotated : Document :=
  ⟨"a", "toy", String.intercalate "\n"
    ["<Example :name=\"one\" />", "f()", "<Probe />", "<Assertion :expected=\"1\" />", "x = 1",
      "y = x", "<Probe :example=\"one\" />", "z = y"]⟩

def plain : Document := ⟨"b", "toy", "g()"⟩

def statementEnds (uri : String) (line : Nat) : Event :=
  ⟨0, ⟨"a", 8⟩, ⟨uri, line, "x", .ok (.ofText "1"), Script.scope []⟩⟩

/-- The hook on line 8 of the first document also hears what happens in other places. -/
def wandering : Script where
  globals := [("toy", [("f", .ok { display := .ok "f", has := (· == .executable) })])]
  invocations := [("f", [⟨[statementEnds "a" 8, statementEnds "a" 6, statementEnds "b" 1,
    statementEnds "a" 2, statementEnds "a" 6], 0, .ok (.ofText "1")⟩])]

def callOfF : Example := ⟨"one", ⟨"a", "toy", 1⟩, ⟨"f", []⟩, []⟩

def listedInBoth : List (Document × List Probe) :=
  [(annotated, [.ofExample callOfF, .selection 8 "y", .statement (some "one") 8,
      .statement none 5, .assertion none 5 5 "1" true, .orphan 6, .orphan 2]),
    (plain, [.orphan 1])]

end TwoDocuments

end ExampleProbes.Analysis
