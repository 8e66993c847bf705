import ExampleProbes.Probe.ToJson
import ExampleProbes.Report.Basic
/-
The report as it is sent. Lines count from 0 here.
-/
namespace ExampleProbes

/-- The line before, in numbers of 32 bits: before the first comes the largest. -/
def lineIndex : (line : Nat) → Nat
  | 0 => maxLine
  | line + 1 => line

def Record.toJson (record : Record) : Json :=
  .object [("probeType", .string record.probe.type.name),
    ("lineIndex", .nat (lineIndex record.probe.reportLine)),
    ("examples", .array (record.observations.map fun (name, observations) =>
      .object [("exampleName", .string name),
        ("observedValues", .array (observations.map Observation.toJson))]))]

def FileReport.toJson (file : FileReport) : Json :=
  .object [("uri", .string file.uri), ("languageId", .string file.languageId),
    ("probes", .array (file.records.map Record.toJson))]

def Report.filesJson (report : Report) : Json := .array (report.files.map FileReport.toJson)

def Report.toJson (report : Report) : Json := .object [("files", report.filesJson)]

end ExampleProbes
