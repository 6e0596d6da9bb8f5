import SinkKeeper.Environment.Basic
import SinkKeeper.Fault
import SinkKeeper.Shape
import SinkKeeper.Text.Utf8

/-!
# Failures

Everything an operation can end with instead of a result. Errors of the sink are the ones that reports
carry; every other failure passes through.
-/

namespace SinkKeeper

/-! ## Errors of the sink -/

/-- What was rejected before anything was sent. -/
inductive Rejection
  | general
  | credentials
  | scheme
  | authority
  | hostPort
  | port
  | host
  | identifier
deriving DecidableEq, Repr

/-- How a connection was not had. -/
inductive Outage
  | failed
  | driverMissing
  | noHandle
deriving DecidableEq, Repr

/-- An error of an operation on a sink, with the connection string or statement it concerns. -/
inductive SinkError
  | general (text : String)
  | rejected (what : Rejection) (text : String)
  | unconnected (how : Outage) (text : String) (url : Option String)
  | unanswered (text : String) (sql : Option String)
  | unexecuted (text : String)
  | statement (sql engineMessage : String) (index : Option Int)
deriving DecidableEq, Repr

/-- The families of sink error. -/
inductive ErrorFamily
  | validation
  | connection
  | query
  | execution
deriving DecidableEq, Repr

def ErrorFamily.name : ErrorFamily → String
  | .validation => "validation"
  | .connection => "connection"
  | .query => "query"
  | .execution => "execution"

def Rejection.name : Rejection → String
  | .general => "ValidationError"
  | .credentials => "MissingCredentials"
  | .scheme => "MalformedScheme"
  | .authority => "MalformedAuthority"
  | .hostPort => "MalformedHostPort"
  | .port => "InvalidPort"
  | .host => "HostNotAllowed"
  | .identifier => "InvalidIdentifier"

def Outage.name : Outage → String
  | .failed => "ConnectionFailed"
  | .driverMissing => "DriverUnavailable"
  | .noHandle => "NullConnection"

namespace SinkError

/-- The family of an error; one of no other family counts as of execution. -/
def family : SinkError → ErrorFamily
  | .rejected .. => .validation
  | .unconnected .. => .connection
  | .unanswered .. => .query
  | .general _ | .unexecuted _ | .statement .. => .execution

def name : SinkError → String
  | .general _ => "SinkError"
  | .rejected what _ => what.name
  | .unconnected how _ _ => how.name
  | .unanswered .. => "QueryError"
  | .unexecuted _ => "ExecutionError"
  | .statement .. => "StatementError"

/-- The words for an error. A statement of a batch is told by its number, counted from one. -/
def message : SinkError → String
  | .general text | .rejected _ text | .unconnected _ text _ | .unanswered text _ | .unexecuted text => text
  | .statement sql engineMessage index =>
    let place := match index with
      | some i => " (statement " ++ Number.writeInt (i + 1) ++ " of batch)"
      | none => ""
    "execute sql failed" ++ place ++ ": " ++ engineMessage ++ " [sql: " ++ sql ++ "]"

def refusedToken (text : String) : SinkError := .rejected .identifier text

end SinkError

/-! ## All failures -/

/-- Why a file could not be opened. -/
inductive FileFlaw
  | absent
  | directory
  | notDirectory
  | nullCharacter
deriving DecidableEq, Repr

/-- What an operation can end with instead of a result. -/
inductive Failure
  | sink (e : SinkError)
  | shape (e : ShapeError)
  | fault (f : Fault)
  | unparsed (e : Json.ParseError)
  | undecoded (e : Text.Utf8.Undecodable)
  | file (flaw : FileFlaw) (path : String)
  | variable (flaw : VariableFlaw)
  | master (text : String)
  | settings (text : String)

/-- The words for a path that could not be opened. One with a null character is not shown. -/
def FileFlaw.message [Runtime] (path : String) : FileFlaw → String
  | .absent => "[Errno 2] No such file or directory: " ++ Text.quoted path
  | .directory => "[Errno 21] Is a directory: " ++ Text.quoted path
  | .notDirectory => "[Errno 20] Not a directory: " ++ Text.quoted path
  | .nullCharacter => "embedded null byte"

def Failure.message [Runtime] : Failure → String
  | .sink e => e.message
  | .shape e => e.message
  | .fault f => f.text
  | .unparsed e => e.message
  | .undecoded e => e.message
  | .file flaw path => flaw.message path
  | .variable flaw => flaw.message
  | .master text => text
  | .settings text => text

instance : MonadLift (Except SinkError) (Except Failure) := ⟨fun x => x.mapError .sink⟩

instance : MonadLift (Except ShapeError) (Except Failure) := ⟨fun x => x.mapError .shape⟩

end SinkKeeper
