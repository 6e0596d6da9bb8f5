import SinkKeeper.Server.Basic

/-!
# Running statements

One statement, or several: all in one transaction, or each on its own and stopping at the first that fails.
-/

namespace SinkKeeper.Task

variable {σ : Type} [Server σ]

/-- Rolls back after a failed statement. The statement's error counts, so a driver's fault is only noted. -/
def rollbackQuietly : Task σ Unit :=
  onFault FaultKind.isDriver (perform .rollback) fun f =>
    note .warning ("rollback after failed statement also failed: " ++ f.driverMessage)

def runAndCommit (sql : String) (index : Option Int) : Task σ Unit :=
  onFault FaultKind.isDriver (do perform (.exec sql); perform .commit) fun f => do
    rollbackQuietly
    throw (.sink (.statement sql f.driverMessage index))

def execute (sql : String) : Task σ Unit := do
  runAndCommit sql none
  note .info ("execute sql [" ++ sql ++ "] success")

/-! ## Each on its own -/

/-- Runs statements one after another, counted from `index`. -/
def executeEachFrom (index : Nat) : List String → Task σ Unit
  | [] => pure ()
  | sql :: rest => do
    runAndCommit sql (some index)
    executeEachFrom (index + 1) rest

/-- Runs statements one after another; those before a failure stay applied. -/
def executeEach (statements : List String) : Task σ Unit := do
  executeEachFrom 0 statements
  note .info ("execute sql " ++ Json.shownTexts statements ++ " success (non-transactional)")

/-! ## All together -/

def transactionFailed (f : Fault) : Failure := .sink (.statement "COMMIT" f.driverMessage none)

/-- Sends statements inside a transaction, counted from `index`. -/
def sendFrom (index : Nat) : List String → Task σ Unit
  | [] => pure ()
  | sql :: rest => do
    onFault FaultKind.isDriver (perform (.exec sql)) fun f =>
      throw (.sink (.statement sql f.driverMessage (some index)))
    sendFrom (index + 1) rest

/-- Opens a transaction, ending one that is open. -/
def openTransaction : Task σ Unit := do
  if (← get).inTransaction then perform .commit
  perform .start

/-- The failure that counts when a rollback fails too: a statement's own error before a driver's fault,
and otherwise the later one. -/
def afterLostRollback : Failure → Failure → Failure
  -- The fault would be told as a failed commit, and the statement would be lost.
  | .sink e, .fault f => if f.kind.isDriver then .sink e else .fault f
  | _, e => e

def abandon (e : Failure) : Task σ Unit := fun link =>
  match perform .rollback link with
  | .ok _ link => .error e link
  | .error e' link => .error (afterLostRollback e e') link

/-- Does work in the open transaction and commits it, or rolls it back if the work fails. -/
def inTransaction (work : Task σ Unit) : Task σ Unit := fun link =>
  match work link with
  | .ok _ link => perform .commit link
  | .error e link => abandon e link

def executeTogether (statements : List String) : Task σ Unit := do
  onFault FaultKind.isDriver
    (do
      openTransaction
      inTransaction (sendFrom 0 statements))
    fun f => throw (transactionFailed f)
  note .info ("execute sql " ++ Json.shownTexts statements ++ " success")

/-- Runs several statements; none at all makes no call. -/
def executeBatch (statements : List String) (together : Bool) : Task σ Unit :=
  if statements.isEmpty then pure ()
  else if together then executeTogether statements
  else executeEach statements

end SinkKeeper.Task
