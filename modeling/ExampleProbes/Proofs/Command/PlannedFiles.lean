import ExampleProbes.Command.Analysis
import ExampleProbes.Proofs.Probe.Triggers
import ExampleProbes.Proofs.Report.LineOrder

/-!
The report that an analysis starts from. Documents with different addresses have one file
each, in their order; a file holds the examples of its document in their order, and on its
lines the selection made in it and its probes by trigger line. As trigger lines never
decrease, the probes stand in the order of the document, but for those of the selected line,
which stand first.
-/
namespace ExampleProbes

theorem filter_key_eq_singleton {α : Type} {key : α → String} {xs : List α}
    (distinct : (xs.map key).Nodup) {a : α} (member : a ∈ xs) :
    xs.filter (fun b => key b == key a) = [a] := by
  induction xs with
  | nil => cases member
  | cons b rest ih =>
    obtain ⟨absent, others⟩ := List.nodup_cons.mp distinct
    rcases List.mem_cons.mp member with rfl | later
    · have none : rest.filter (fun b => key b == key a) = [] := by
        apply List.filter_eq_nil_iff.mpr
        intro c inside same
        have equal : key c = key a := by simpa using same
        exact absent (equal ▸ List.mem_map_of_mem inside)
      simp [none]
    · have different : (key b == key a) = false := by
        simp only [beq_eq_false_iff_ne]
        intro same
        exact absent (same ▸ List.mem_map_of_mem later)
      simp [different, ih others later]

namespace FileReport

/-- The file with what the annotations of its document declare. -/
def holding (found : Annotations) (file : FileReport) : FileReport :=
  found.probes.foldl (fun f probe => f.addProbe probe.triggerLine probe)
    (found.examples.foldl (fun f e => f.addExample e) file)

theorem foldl_addExample (examples : List Example) (file : FileReport) :
    examples.foldl (fun f e => f.addExample e) file =
      { file with
        examples := file.examples ++ examples.map fun e => { probe := .ofExample e } } := by
  induction examples generalizing file with
  | nil => simp
  | cons e rest ih =>
    rw [List.foldl_cons, ih]
    simp [addExample]

theorem foldl_addProbe (probes : List Probe) (file : FileReport) :
    probes.foldl (fun f probe => f.addProbe probe.triggerLine probe) file =
      { file with
        lines := Ledger.gather (probes.map fun probe => (probe.triggerLine, { probe })) file.lines } := by
  induction probes generalizing file with
  | nil => rfl
  | cons probe rest ih =>
    rw [List.foldl_cons, ih]
    rfl

theorem holding_eq (found : Annotations) (file : FileReport) :
    file.holding found =
      { file with
        examples := file.examples ++ found.examples.map fun e => { probe := .ofExample e }
        lines := Ledger.gather
          (found.probes.map fun probe => (probe.triggerLine, { probe })) file.lines } := by
  rw [holding, foldl_addExample, foldl_addProbe]

end FileReport

namespace Analysis
open Report

/-- The selection, where it was made in this document. -/
def selectedIn (target : Document) (selection : Option Selection) (document : Document) :
    Option Selection :=
  if document.uri = target.uri then selection else none

def emptyFile (document : Document) : FileReport :=
  { uri := document.uri, languageId := document.languageId }

def startFile (selected : Option Selection) (document : Document) : FileReport :=
  match selected with
  | none => emptyFile document
  | some chosen =>
    (emptyFile document).addProbe chosen.probeLine (.selection chosen.probeLine chosen.text)

def plannedFile (selected : Option Selection) (document : Document) : FileReport :=
  (startFile selected document).holding (Annotations.ofDocument document)

theorem files_register {documents : List Document} {report : Report}
    (distinct : (report.uris ++ documents.map (·.uri)).Nodup) :
    (documents.foldl (fun r document => r.register document.uri document.languageId) report).files =
      report.files ++ documents.map emptyFile := by
  induction documents generalizing report with
  | nil => simp
  | cons document rest ih =>
    have absent : document.uri ∉ report.uris := by
      intro inside
      exact (List.nodup_append.mp distinct).2.2 _ inside _ (by simp) rfl
    have registered : report.register document.uri document.languageId =
        ⟨report.files ++ [emptyFile document]⟩ := by
      simp [register, file?_isSome_iff, absent, emptyFile]
    have next : (uris ⟨report.files ++ [emptyFile document]⟩ ++ rest.map (·.uri)).Nodup := by
      simpa [uris, emptyFile] using distinct
    rw [List.foldl_cons, registered, ih next]
    simp

section AddFound
variable {uri : String} {report : Report} (registered : uri ∈ report.uris)
include registered

theorem foldl_addExample_eq {examples : List Example}
    (located : ∀ e ∈ examples, e.location.uri = uri) :
    examples.foldl (fun r e => r.addExample e) report =
      report.modifyFile uri fun file => examples.foldl (fun f e => f.addExample e) file := by
  induction examples generalizing report with
  | nil => exact (modifyFile_of_fixed fun _ _ => rfl).symm
  | cons e rest ih =>
    have here : e.location.uri = uri := located e (by simp)
    have known : report.register e.location.uri e.location.languageId = report := by
      simp [register, file?_isSome_iff, here, registered]
    have kept : ∀ file : FileReport, (file.addExample e).uri = file.uri := fun _ => rfl
    have next : uri ∈ (report.modifyFile uri (·.addExample e)).uris := by
      rwa [uris_modifyFile kept]
    rw [List.foldl_cons, addExample, known, here,
      ih next fun other member => located other (List.mem_cons_of_mem e member),
      modifyFile_modifyFile kept]
    rfl

theorem addFound_eq {found : Annotations}
    (located : ∀ e ∈ found.examples, e.location.uri = uri) :
    addFound uri found report = report.modifyFile uri (·.holding found) := by
  have probes : ∀ (probes : List Probe) (r : Report),
      probes.foldl (fun r probe => r.addProbe uri probe.triggerLine probe) r =
        r.modifyFile uri fun file =>
          probes.foldl (fun f probe => f.addProbe probe.triggerLine probe) file := by
    intro probes
    induction probes with
    | nil => exact fun r => (modifyFile_of_fixed fun _ _ => rfl).symm
    | cons probe rest ih =>
      intro r
      have kept : ∀ file : FileReport,
          (file.addProbe probe.triggerLine probe).uri = file.uri := fun _ => rfl
      rw [List.foldl_cons, ih, addProbe, modifyFile_modifyFile kept]
      rfl
  have kept : ∀ file : FileReport,
      (found.examples.foldl (fun f e => f.addExample e) file).uri = file.uri := by
    intro file
    rw [FileReport.foldl_addExample]
  rw [addFound, foldl_addExample_eq registered located, probes, modifyFile_modifyFile kept]
  rfl

end AddFound

theorem foldl_addDocument (documents : List Document) (plan : Plan) :
    documents.foldl addDocument plan =
      ⟨documents.foldl (fun r document =>
          addFound document.uri (Annotations.ofDocument document) r) plan.report,
        plan.examples ++ documents.flatMap fun document =>
          (Annotations.ofDocument document).examples⟩ := by
  induction documents generalizing plan with
  | nil => simp
  | cons document rest ih =>
    rw [List.foldl_cons, ih]
    simp [addDocument]

theorem planFor_examples (documents : List Document) (target : Document)
    (selection : Option Selection) :
    (planFor documents target selection).examples =
      documents.flatMap fun document => (Annotations.ofDocument document).examples := by
  rw [planFor, foldl_addDocument, List.nil_append]

theorem planFor_report (documents : List Document) (target : Document)
    (selection : Option Selection) :
    (planFor documents target selection).report =
      documents.foldl (fun r document =>
          addFound document.uri (Annotations.ofDocument document) r)
        (addSelection target selection (registerAll documents)) := by
  rw [planFor, foldl_addDocument]

theorem foldl_addFound_eq {documents : List Document} {report : Report}
    (registered : ∀ document ∈ documents, document.uri ∈ report.uris) :
    documents.foldl (fun r document =>
        addFound document.uri (Annotations.ofDocument document) r) report =
      documents.foldl (fun r document =>
        r.modifyFile document.uri (·.holding (Annotations.ofDocument document))) report := by
  induction documents generalizing report with
  | nil => rfl
  | cons document rest ih =>
    have located : ∀ e ∈ (Annotations.ofDocument document).examples,
        e.location.uri = document.uri :=
      fun e member => (Annotations.location_of_mem_examples _ _ member).1
    have kept : ∀ file : FileReport,
        (file.holding (Annotations.ofDocument document)).uri = file.uri := by
      intro file
      rw [FileReport.holding_eq]
    rw [List.foldl_cons, List.foldl_cons, addFound_eq (registered document (by simp)) located, ih]
    intro other member
    rw [uris_modifyFile kept]
    exact registered other (List.mem_cons_of_mem document member)

theorem startFile_uri (selected : Option Selection) (document : Document) :
    (startFile selected document).uri = document.uri := by
  cases selected <;> rfl

section Distinct
variable {documents : List Document} (distinct : (documents.map (·.uri)).Nodup)
  (target : Document) (selection : Option Selection)
include distinct

theorem files_addSelection :
    (addSelection target selection (registerAll documents)).files =
      documents.map fun document => startFile (selectedIn target selection document) document := by
  have apart : (uris {} ++ documents.map (·.uri)).Nodup := distinct
  have empty : (registerAll documents).files = documents.map emptyFile := files_register apart
  cases selection with
  | none =>
    have same : ∀ document, startFile (selectedIn target none document) document =
        emptyFile document := by
      intro document
      simp [selectedIn, startFile]
    simp only [addSelection, empty, same]
  | some chosen =>
    have registered : (registerAll documents).uris.Nodup := by
      simpa [uris, empty, emptyFile, Function.comp_def] using distinct
    rw [addSelection, addProbe, files_modifyFile registered, empty, List.map_map]
    apply List.map_congr_left
    intro document _
    by_cases here : document.uri = target.uri <;> simp [emptyFile, selectedIn, startFile, here]

theorem uris_addSelection :
    (addSelection target selection (registerAll documents)).uris = documents.map (·.uri) := by
  simp [uris, files_addSelection distinct, startFile_uri, Function.comp_def]

/-- The files that an analysis starts from. -/
theorem planFor_files :
    (planFor documents target selection).report.files =
      documents.map fun document => plannedFile (selectedIn target selection document) document := by
  have addresses := uris_addSelection distinct target selection
  have registered : ∀ document ∈ documents,
      document.uri ∈ (addSelection target selection (registerAll documents)).uris := by
    intro document member
    rw [addresses]
    exact List.mem_map_of_mem member
  have kept : ∀ (document : Document) (file : FileReport),
      (file.holding (Annotations.ofDocument document)).uri = file.uri := by
    intro document file
    rw [FileReport.holding_eq]
  rw [planFor, foldl_addDocument, foldl_addFound_eq registered,
    files_foldl_modifyFile kept documents (addresses ▸ distinct), files_addSelection distinct,
    List.map_map]
  apply List.map_congr_left
  intro document member
  simp [startFile_uri, filter_key_eq_singleton distinct member, plannedFile]

end Distinct

/-- The probes on the lines of a document, those of the selected line first. -/
def lineProbes (selected : Option Selection) (probes : List Probe) : List Probe :=
  match selected with
  | none => probes
  | some chosen =>
    .selection chosen.probeLine chosen.text ::
      (probes.filter (·.triggerLine = chosen.probeLine) ++
        probes.filter (·.triggerLine ≠ chosen.probeLine))

/-- The lines of a document that have records before anything is fired. -/
def probedLines (selected : Option Selection) (probes : List Probe) : List Nat :=
  (selected.map (·.probeLine)).toList ++ probes.map (·.triggerLine)

section PlannedFile
variable (selected : Option Selection) (document : Document)

theorem plannedFile_uri : (plannedFile selected document).uri = document.uri := by
  rw [plannedFile, FileReport.holding_eq]
  exact startFile_uri selected document

theorem plannedFile_languageId : (plannedFile selected document).languageId = document.languageId := by
  rw [plannedFile, FileReport.holding_eq]
  cases selected <;> rfl

theorem plannedFile_lines :
    ((plannedFile selected document).lines.flatMap Prod.snd).map (·.probe) =
      lineProbes selected (Annotations.ofDocument document).probes := by
  obtain ⟨_, ordered⟩ := Annotations.ofDocument_triggers document
  rw [plannedFile, FileReport.holding_eq]
  generalize (Annotations.ofDocument document).probes = probes at ordered
  have entries : (probes.map fun probe => (probe.triggerLine, ({ probe } : Record))).Pairwise
      fun a b => a.1 ≤ b.1 := List.pairwise_map.mpr ordered
  cases selected with
  | none =>
    have lines := Ledger.flatMap_gather_nil entries
    simp [startFile, emptyFile, lines, lineProbes, Function.comp_def]
  | some chosen =>
    have start : (startFile (some chosen) document).lines =
        [(chosen.probeLine, [{ probe := .selection chosen.probeLine chosen.text }])] := rfl
    have others := Ledger.flatMap_gather_nil (entries.filter (·.1 ≠ chosen.probeLine))
    simp only [start, Ledger.gather_cons, List.flatMap_cons, others, lineProbes]
    simp [List.filter_map, Function.comp_def]

theorem plannedFile_filled : ∀ entry ∈ (plannedFile selected document).lines, entry.2 ≠ [] := by
  rw [plannedFile, FileReport.holding_eq]
  apply Ledger.gather_filled
  cases selected with
  | none => simp [startFile, emptyFile]
  | some chosen => simp [startFile, emptyFile, FileReport.addProbe, Ledger.upsert]

theorem mem_plannedFile_keys (line : Nat) :
    line ∈ (plannedFile selected document).lines.keys ↔
      line ∈ probedLines selected (Annotations.ofDocument document).probes := by
  rw [plannedFile, FileReport.holding_eq, Ledger.mem_keys_gather, List.map_map, probedLines,
    List.mem_append]
  apply or_congr
  · cases selected with
    | none => simp [startFile, emptyFile, Ledger.keys]
    | some chosen =>
      simp [startFile, emptyFile, FileReport.addProbe, Ledger.upsert, Ledger.keys]
  · rfl

theorem plannedFile_examples :
    (plannedFile selected document).examples.map (·.probe) =
      (Annotations.ofDocument document).examples.map .ofExample := by
  rw [plannedFile, FileReport.holding_eq]
  cases selected <;> simp [startFile, emptyFile, FileReport.addProbe, Function.comp_def]

end PlannedFile

end Analysis
end ExampleProbes
