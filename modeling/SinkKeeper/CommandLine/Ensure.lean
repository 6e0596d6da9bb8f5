import SinkKeeper.CommandLine.Arguments
import SinkKeeper.Environment.Loading
import SinkKeeper.Schema.File
import SinkKeeper.Sink

/-!
# Keeping a schema

The command that brings a sink in line with a schema file, table by table. A table that fails does not
keep the others from being looked after; the command fails if one of them did.
-/

namespace SinkKeeper.CommandLine

/-! ## Lines -/

/-- Where a line is printed. -/
inductive Stream
  | output
  | error
deriving DecidableEq, Repr

/-- A printed line. -/
structure Line where
  stream : Stream
  text : String
deriving DecidableEq, Repr

/-- How a command ended: it was not understood, or it printed lines and gave an exit code. -/
inductive Ending
  | refused (refusal : Refusal)
  | ended (exit : Nat) (lines : List Line)

/-- The exit code of a command that was not understood; asking for help is no error. -/
def Refusal.exit : Refusal → Nat
  | .help => 0
  | .misuse => 2

def textOn (stream : Stream) (lines : List Line) : String :=
  String.join ((lines.filter (·.stream = stream)).map fun line => line.text ++ "\n")

/-! ## Reports -/

def lineOf (t : Table) (r : Report) : Line :=
  match r.failure with
  | some e => ⟨.error, "  " ++ t.label ++ ": FAILED - " ++ e.message⟩
  | none =>
    let done := if r.executed.isEmpty then "up to date" else toString r.executed.length ++ " statement(s)"
    ⟨.output, "  " ++ t.label ++ ": " ++ done ++ ", " ++ toString r.columns.length ++ " column(s)"⟩

def summaryLine (succeeded total : Nat) (path : String) : Line :=
  ⟨.output, "Done. " ++ toString succeeded ++ " of " ++ toString total ++ " table(s) in line with " ++ path⟩

def endingOf (path : String) (reports : List (Table × Report)) : Ending :=
  let succeeded := reports.countP fun r => r.2.success
  .ended (if succeeded = reports.length then 0 else 1)
    (reports.map (fun r => lineOf r.1 r.2) ++ [summaryLine succeeded reports.length path])

def unreadable (path : String) (e : Failure) : Ending :=
  .ended 1 [⟨.error, "ERROR: cannot read " ++ path ++ ": " ++ e.message⟩]

/-- Whether a failure tells that a schema file cannot be read; the overflow of a number does not. -/
def isUnreadable : Failure → Bool
  | .file .. | .unparsed _ | .undecoded _ => true
  | .shape e => e.family ∈ [.key, .type, .value, .attribute]
  | _ => false

/-! ## Running -/

variable {σ : Type} [Server σ]

def ensureAll (sink : Sink) (env : Environment) : List Table → Task σ (List (Table × Report))
  | [] => pure []
  | t :: rest => do
    let report ← sink.run env (.ensureTable t)
    let reports ← ensureAll sink env rest
    return (t, report) :: reports

/-- The sink of a request; its password stands in the environment. -/
def sinkOf (r : Request) (env : Environment) : Sink where
  dialect := r.engine
  url := r.url
  user := r.user
  password := env.get? r.passwordVariable
  connectSeconds := none
  statementSeconds := none

def tablesOf (folder : Folder) (r : Request) : Except Failure (List Table) := do
  let text ← folder.readText (FilePath.normal r.schema)
  SchemaFile.read r.database text

def ensure (folder : Folder) (env : Environment) (r : Request) : Task σ Ending := do
  let path := FilePath.normal r.schema
  match tablesOf folder r with
  | .error e => if isUnreadable e then return unreadable path e else throw e
  | .ok tables =>
    let reports ← ensureAll (sinkOf r env) env tables
    return endingOf path reports

def loadEnvironment (s : Surroundings) : Task σ Environment := fun link =>
  match s.load with
  | .ok _ loading => .ok loading.environment { link with notes := link.notes ++ loading.notes }
  | .error e loading => .error e { link with notes := link.notes ++ loading.notes }

/-- Runs the command: reads its words, loads the environment and looks after the tables. -/
def run (s : Surroundings) (words : List String) : Task σ Ending :=
  match read words with
  | .error refusal => return .refused refusal
  | .ok request => do
    let env ← loadEnvironment s
    ensure s.folder env request

end SinkKeeper.CommandLine
