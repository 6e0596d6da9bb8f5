import SinkKeeper.Dialect
import SinkKeeper.Note

/-!
# Servers and tasks

A database server is seen through the calls that reach it and its answers. A task makes calls one after
another; it ends with a result or a failure, and leaves the events and notes of everything it did.
-/

namespace SinkKeeper

/-! ## Calls and answers -/

/-- A call to a server or to the code that connects to it. -/
inductive Call
  | createEngine (driver : String) (address : Address) (options : EngineOptions)
  | connect
  | query (sql : String) (params : Json.Fields)
  | exec (sql : String)
  | commit
  | rollback
  | start
  | close
  | dispose

/-- An answer: rows, an error of the engine, or a call that broke before the engine answered. Only queries
are answered with rows that matter. -/
inductive Answer
  | rows (rows : List Row)
  | error (f : Fault)
  | broken (f : Fault)

/-- How a call ended. -/
inductive Outcome
  | done
  | refused
  | broken
deriving DecidableEq, Repr

def Answer.outcome : Answer → Outcome
  | .rows _ => .done
  | .error _ => .refused
  | .broken _ => .broken

/-- A call that was made and how it ended. -/
structure Event where
  call : Call
  outcome : Outcome

/-- What connecting hands over. -/
inductive Handle
  | usable
  | closed
  | absent
deriving DecidableEq, Repr

/-- A server: how it answers each call, and the handle that a connection gets. -/
class Server (σ : Type) where
  respond : σ → Call → Answer × σ
  handle : σ → Handle

/-! ## Tasks -/

/-- A server with what has happened on the way to it, and whether a transaction is open. -/
structure Link (σ : Type) where
  server : σ
  inTransaction : Bool
  events : List Event
  notes : List Note

def Link.fresh {σ : Type} (server : σ) : Link σ := ⟨server, false, [], []⟩

/-- Work on a link that ends with a result or a failure. What happened before a failure stays. -/
abbrev Task (σ : Type) := EStateM Failure (Link σ)

instance {σ : Type} : MonadLift (Except Failure) (Task σ) where
  monadLift
    | .ok a => pure a
    | .error e => throw e

instance {σ : Type} : MonadLift (Except SinkError) (Task σ) where
  monadLift
    | .ok a => pure a
    | .error e => throw (.sink e)

instance {σ : Type} : MonadLift (Except ShapeError) (Task σ) where
  monadLift
    | .ok a => pure a
    | .error e => throw (.shape e)

/-- Whether a transaction is open after a call: a query or a statement opens one even when it fails, a
commit or rollback that succeeds ends it, and a new connection has none. -/
def transactionAfter (c : Call) (outcome : Outcome) (open? : Bool) : Bool :=
  match c, outcome with
  | .query .., _ | .exec _, _ => true
  | .start, .done => true
  | .commit, .done | .rollback, .done | .connect, .done => false
  | _, _ => open?

namespace Task

variable {σ : Type}

def note (level : Level) (text : String) : Task σ Unit :=
  modify fun link => { link with notes := link.notes ++ [Note.mk level text] }

/-- Makes a call and gives its rows; a fault ends the task. -/
def call [Server σ] (c : Call) : Task σ (List Row) := do
  let link ← get
  let (answer, server) := Server.respond link.server c
  set { link with
    server
    inTransaction := transactionAfter c answer.outcome link.inTransaction
    events := link.events ++ [Event.mk c answer.outcome] }
  match answer with
  | .rows rows => return rows
  | .error f | .broken f => throw (.fault f)

def perform [Server σ] (c : Call) : Task σ Unit := do
  let _ ← call c

/-- Does the work and then the cleanup, whatever the work ended with. A failure of the cleanup counts
before one of the work. -/
def andFinally {α : Type} (work : Task σ α) (cleanup : Task σ Unit) : Task σ α := fun link =>
  match work link with
  | .ok a link =>
    match cleanup link with
    | .ok _ link => .ok a link
    | .error e link => .error e link
  | .error e link =>
    match cleanup link with
    | .ok _ link => .error e link
    | .error e' link => .error e' link

/-- Does the work; a fault of the given kinds is handed over. -/
def onFault {α : Type} (kinds : FaultKind → Bool) (work : Task σ α) (handle : Fault → Task σ α) :
    Task σ α := fun link =>
  match work link with
  | .ok a link => .ok a link
  | .error (.fault f) link => if kinds f.kind then handle f link else .error (.fault f) link
  | .error e link => .error e link

end Task

end SinkKeeper
