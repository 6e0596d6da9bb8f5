import SinkKeeper.Reconcile
import SinkKeeper.Environment.Limits

/-!
# Sinks

A sink is a database that may be connected to. Each operation opens a connection of its own and closes it,
and releases what made it, however the operation ends.
-/

namespace SinkKeeper

open Number (Numeral)

/-- How to connect to a sink, with limits that may be left to the environment. -/
structure Sink where
  dialect : Dialect
  url : String
  user : String
  password : Option String
  connectSeconds : Option Numeral
  statementSeconds : Option Numeral

namespace Sink

/-! ## Errors of connecting -/

def noCredentials : SinkError := .rejected .credentials "URL or username cannot be empty"

def driverMissing (d : Dialect) (url : String) (f : Fault) : SinkError :=
  .unconnected .driverMissing (d.name ++ " driver is not available: " ++ f.text) (some url)

def connectFailed (d : Dialect) (url : String) (f : Fault) : SinkError :=
  .unconnected .failed
    ("get " ++ d.name ++ " connection error, please check JDBC URL, username or password. other error msg: "
      ++ f.detail) (some url)

def handleMissing (d : Dialect) (url : String) : SinkError :=
  .unconnected .noHandle ("get " ++ d.name ++ " connection failed, please contact administrator") (some url)

/-! ## Connecting -/

/-- The address of a sink, read before anything is sent. -/
def address (s : Sink) : Except Failure Address := do
  if Text.isAllBlank s.url || Text.isAllBlank s.user then throw (.sink noCredentials)
  let a ← s.dialect.parseAddress (Text.strip s.url)
  return a.withCredentials (some s.user) s.password

variable {σ : Type}

/-- A limit that is given, or else the one of the environment. -/
def limitOr (given : Option Numeral) (read : ReadLimit) : Task σ Numeral :=
  match given with
  | some seconds => pure seconds
  | none => fun link => .ok (.real read.seconds) { link with notes := link.notes ++ read.notes }

variable [Server σ]

def createEngine (s : Sink) (a : Address) (options : EngineOptions) : Task σ Unit :=
  Task.onFault FaultKind.isMissing (Task.perform (.createEngine s.dialect.driver a options)) fun f =>
    throw (.sink (driverMissing s.dialect a.redacted f))

/-- Connects, and tells from each fault what the caller may do about it. -/
def connect (s : Sink) (url : String) : Task σ Unit :=
  Task.onFault (fun _ => true) (Task.perform .connect) fun f =>
    if f.kind.isMissing then throw (.sink (driverMissing s.dialect url f))
    else do
      Task.note .error
        ("get " ++ s.dialect.name ++ " connection error for url=" ++ url ++ ": " ++ f.detail)
      throw (.sink (connectFailed s.dialect url f))

def requireHandle (s : Sink) (url : String) : Task σ Unit := do
  match Server.handle (← get).server with
  | .usable => Task.note .info ("get " ++ s.dialect.name ++ " connection success, url=" ++ url)
  | .closed | .absent => throw (.sink (handleMissing s.dialect url))

def withConnection {α : Type} (s : Sink) (env : Environment) (work : Task σ α) : Task σ α := do
  let a ← s.address
  let connectLimit ← limitOr s.connectSeconds env.connectLimit
  let statementLimit ← limitOr s.statementSeconds env.statementLimit
  createEngine s a (s.dialect.engineOptions a connectLimit statementLimit)
  Task.andFinally
    (do
      connect s a.redacted
      requireHandle s a.redacted
      Task.andFinally work (Task.perform .close))
    (Task.perform .dispose)

/-- Does an operation on a sink; an error of the sink becomes a failed report. -/
def run (s : Sink) (env : Environment) (operation : Operation) : Task σ Report :=
  Task.report (s.dialect.name ++ " " ++ operation.name)
    (s.withConnection env (operation.run s.dialect))

end Sink

end SinkKeeper
