import ExampleProbes.Probe.Annotations
import ExampleProbes.Command.Arguments
import ExampleProbes.Report.ToJson
import ExampleProbes.Run.Examples
import ExampleProbes.Run.Reporter
/-
The analysis of all open documents: their annotations become a report without observations,
every document is loaded and every example run within the time allowed, partial reports are
sent meanwhile, and the report as it then stands is sent once more. The command answers
with the files of that report, or with the failure that ended the run.
-/
namespace ExampleProbes.Analysis

/-- A report without observations, and the examples to run. -/
structure Plan where
  report : Report
  examples : List Example
  deriving DecidableEq, Repr

def registerAll (documents : List Document) : Report :=
  documents.foldl (fun report document => report.register document.uri document.languageId) {}

/-- The selection is probed at its own line of the document it is in. -/
def addSelection (target : Document) (selection : Option Selection) (report : Report) : Report :=
  match selection with
  | none => report
  | some chosen =>
    report.addProbe target.uri chosen.probeLine (.selection chosen.probeLine chosen.text)

def addFound (uri : String) (found : Annotations) (report : Report) : Report :=
  found.probes.foldl (fun r probe => r.addProbe uri probe.triggerLine probe)
    (found.examples.foldl (fun r e => r.addExample e) report)

def addDocument (plan : Plan) (document : Document) : Plan :=
  let found := Annotations.ofDocument document
  ⟨addFound document.uri found plan.report, plan.examples ++ found.examples⟩

def planFor (documents : List Document) (target : Document) (selection : Option Selection) : Plan :=
  documents.foldl addDocument ⟨addSelection target selection (registerAll documents), []⟩

/-- What is refused before anything runs: arguments, settings and a document not open, in
   this order. -/
def plan (settings : Settings) (documents : List Document) (arguments : List Json) :
    Except Failure Plan := do
  let asked ← AnalysisArguments.of arguments
  settings.valid
  match openDocument? documents asked.uri with
  | none => .error (.documentNotOpen asked.uri)
  | some target => return planFor documents target asked.selection

def loadAll (interpreter : Interpreter) : List Document → Process Machine (Except Failure Unit)
  | [] => return .ok ()
  | document :: rest => do
    let answer ← Run.consult (.load document) (interpreter.load · document)
    Process.sleep answer.delay
    match answer.value with
    | .error fault => return .error (.documentLoad document.uri fault)
    | .ok () => loadAll interpreter rest

def work (interpreter : Interpreter) (documents : List Document) (examples : List Example) :
    Process Machine (Except Failure Unit) := do
  match ← loadAll interpreter documents with
  | .error failure => return .error failure
  | .ok () =>
    Run.runAll interpreter examples
    return .ok ()

/-- How the work ended, where `none` stands for work that was given up. -/
def verdict (settings : Settings) (ending : Option (Except Failure Unit)) (report : Report) :
    Except Failure Report :=
  match ending with
  | none => .error (.timeout settings.timeout)
  | some (.error failure) => .error failure
  | some (.ok ()) => .ok report

/-- The work on a plan, cut at the time allowed. -/
def workCourse (interpreter : Interpreter) (settings : Settings) (documents : List Document)
    (plan : Plan) (machine : Machine) : Course Machine (Option (Except Failure Unit)) :=
  (work interpreter documents plan.examples).cut Machine.release settings.timeout
    { machine with report := plan.report }

/-- The reporter starts with the work and is finished when that is over. -/
def run (interpreter : Interpreter) (ties : Ties) (settings : Settings)
    (documents : List Document) (arguments : List Json) :
    Process Session (Except Failure Report) := fun session =>
  match plan settings documents arguments with
  | .error failure => .done session (.error failure)
  | .ok plan =>
    let course := workCourse interpreter settings documents plan session.machine
    (course.beside ties (.start settings) session.sent).bind fun (reporter, ending) session =>
      let (_, last) := reporter.finish ties session
      .done last (verdict settings ending last.machine.report)

/-- The time that a run took is measured outside; it stands as 0 here. -/
def unmeasured : String × Json := ("timeToRunMillis", .nat 0)

def answer : Except Failure Report → Json
  | .ok report => .object [unmeasured, ("files", report.filesJson)]
  | .error failure => .object [unmeasured, ("error", .string failure.message)]

end ExampleProbes.Analysis
