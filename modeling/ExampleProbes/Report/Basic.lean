import ExampleProbes.Probe.Basic
import ExampleProbes.Probe.Observation
/-
The report of a run: for each file its example records, and for each trigger line the
records of the probes there. A record holds what its probe observed, by example name.
Everything stands in the order in which it was first put in.
-/
namespace ExampleProbes

/-- Values by key, in the order of the first use of each key. -/
abbrev Ledger (κ ν : Type) := List (κ × ν)

namespace Ledger
variable {κ ν : Type} [DecidableEq κ]

/-- Changes the value at `key`, or puts `new` at the end where the key is not there. -/
def upsert (key : κ) (change : ν → ν) (new : ν) : Ledger κ ν → Ledger κ ν
  | [] => [(key, new)]
  | (k, v) :: rest =>
    if k = key then (k, change v) :: rest else (k, v) :: upsert key change new rest

/-- Changes the value at `key`, if it is there. -/
def modify (key : κ) (change : ν → ν) : Ledger κ ν → Ledger κ ν
  | [] => []
  | (k, v) :: rest => if k = key then (k, change v) :: rest else (k, v) :: modify key change rest

def keys (ledger : Ledger κ ν) : List κ := ledger.map Prod.fst

def get? (key : κ) : Ledger κ ν → Option ν
  | [] => none
  | (k, v) :: rest => if k = key then some v else get? key rest

end Ledger

structure Record where
  probe : Probe
  observations : Ledger String (List Observation) := []
  deriving DecidableEq, Repr

structure FileReport where
  uri : String
  languageId : String
  examples : List Record := []
  lines : Ledger Nat (List Record) := []
  deriving DecidableEq, Repr

structure Report where
  files : List FileReport := []
  deriving DecidableEq, Repr

/-- Changes the first member that satisfies `p`, if there is one. -/
def modifyFirst (p : α → Bool) (change : α → α) : List α → List α
  | [] => []
  | a :: rest => if p a then change a :: rest else a :: modifyFirst p change rest

namespace Record

def add (name : String) (observation : Observation) (record : Record) : Record :=
  { record with
    observations :=
      Ledger.upsert name (· ++ [observation]) [observation] record.observations }

def observed (record : Record) (name : String) : List Observation :=
  (Ledger.get? name record.observations).getD []

end Record

namespace FileReport

def recordsOn (file : FileReport) (line : Nat) : List Record := (Ledger.get? line file.lines).getD []

def addProbe (line : Nat) (probe : Probe) (file : FileReport) : FileReport :=
  let record : Record := { probe := probe }
  { file with lines := Ledger.upsert line (· ++ [record]) [record] file.lines }

def addExample (e : Example) (file : FileReport) : FileReport :=
  { file with examples := file.examples ++ [{ probe := .ofExample e }] }

def observe (line index : Nat) (name : String) (observation : Observation)
    (file : FileReport) : FileReport :=
  { file with
    lines := Ledger.modify line (fun records => records.modify index (·.add name observation))
      file.lines }

def isAt (location : Location) (record : Record) : Bool :=
  match record.probe with
  | .ofExample e => e.location == location
  | _ => false

def observeExample (location : Location) (name : String) (observation : Observation)
    (file : FileReport) : FileReport :=
  { file with examples := modifyFirst (isAt location) (·.add name observation) file.examples }

/-- The orphan record of the list gains the observation; a list without one gains both. -/
def observeOrphan (line : Nat) (name : String) (observation : Observation) :
    List Record → List Record
  | [] => [Record.add name observation { probe := .orphan line }]
  | record :: rest =>
    if record.probe.isOrphan then record.add name observation :: rest
    else record :: observeOrphan line name observation rest

def addOrphan (line : Nat) (name : String) (observation : Observation)
    (file : FileReport) : FileReport :=
  { file with
    lines := Ledger.upsert line (observeOrphan line name observation)
      (observeOrphan line name observation []) file.lines }

/-- The trigger lines where a record applies to the example called `name`. -/
def linesFor (name : String) (file : FileReport) : List Nat :=
  (file.lines.filter fun (_, records) => records.any (·.probe.appliesTo name)).map Prod.fst

def records (file : FileReport) : List Record :=
  file.examples ++ file.lines.flatMap Prod.snd

end FileReport

namespace Report

def file? (uri : String) (report : Report) : Option FileReport :=
  report.files.find? fun file => file.uri == uri

def modifyFile (uri : String) (change : FileReport → FileReport) (report : Report) : Report :=
  ⟨modifyFirst (fun file => file.uri == uri) change report.files⟩

/-- Registers a file. A file that is registered keeps its place and language. -/
def register (uri languageId : String) (report : Report) : Report :=
  if (report.file? uri).isSome then report
  else ⟨report.files ++ [{ uri := uri, languageId := languageId }]⟩

def addExample (e : Example) (report : Report) : Report :=
  (report.register e.location.uri e.location.languageId).modifyFile e.location.uri
    (·.addExample e)

def addProbe (uri : String) (line : Nat) (probe : Probe) (report : Report) : Report :=
  report.modifyFile uri (·.addProbe line probe)

def probesAt (uri : String) (line : Nat) (report : Report) : List Probe :=
  match report.file? uri with
  | some file => (file.recordsOn line).map (·.probe)
  | none => []

/-- The trigger lines where a record applies to the example called `name`. -/
def linesFor (name : String) (report : Report) : List (String × Nat) :=
  report.files.flatMap fun file => (file.linesFor name).map fun line => (file.uri, line)

def observe (uri : String) (line index : Nat) (name : String) (observation : Observation)
    (report : Report) : Report :=
  report.modifyFile uri (·.observe line index name observation)

def observeExample (e : Example) (observation : Observation) (report : Report) : Report :=
  report.modifyFile e.location.uri (·.observeExample e.location e.name observation)

/-- Gives an observation to the orphan record of a line that may not have one yet. -/
def observeOrphan (uri : String) (line : Nat) (name : String) (observation : Observation)
    (report : Report) : Report :=
  report.modifyFile uri (·.addOrphan line name observation)

end Report
end ExampleProbes
