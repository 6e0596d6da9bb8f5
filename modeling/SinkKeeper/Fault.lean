/-!
# Faults

What a driver, a transport or a remote service reports when a call does not succeed, and the classes of
faults that callers tell apart.
-/

namespace SinkKeeper

/-- The kinds of fault. -/
inductive FaultKind
  | database
  | databaseBare
  | system
  | timeout
  | reset
  | transport
  | protocol
  | requestConnection
  | requestTimeout
  | requestUrl
  | dialectMissing
  | driverMissing
  | runtime
  | value
  | vault
  | vaultHttp
deriving DecidableEq, Repr

namespace FaultKind

/-- The name of a kind, which stands in for an empty message. -/
def name : FaultKind → String
  | .database => "DBAPIError"
  | .databaseBare => "PlainDBAPIError"
  | .system => "OSError"
  | .timeout => "TimeoutError"
  | .reset => "ConnectionResetError"
  | .transport => "TTransportException"
  | .protocol => "TException"
  | .requestConnection => "ConnectionError"
  | .requestTimeout => "ReadTimeout"
  | .requestUrl => "InvalidURL"
  | .dialectMissing => "NoSuchModuleError"
  | .driverMissing => "ImportError"
  | .runtime => "RuntimeError"
  | .value => "ValueError"
  | .vault => "AzureError"
  | .vaultHttp => "HttpResponseError"

def isRequest : FaultKind → Bool
  | .requestConnection | .requestTimeout | .requestUrl => true
  | _ => false

/-- A failure a statement can end with: of the database, the system, the transport or a request. -/
def isDriver : FaultKind → Bool
  | .database | .databaseBare | .system | .timeout | .reset | .transport | .protocol => true
  | kind => kind.isRequest

def isMissing : FaultKind → Bool
  | .dialectMissing | .driverMissing => true
  | _ => false

def isVault : FaultKind → Bool
  | .vault | .vaultHttp => true
  | _ => false

theorem isMissing_of_isDriver {kind : FaultKind} (h : kind.isDriver = true) : kind.isMissing = false := by
  cases kind <;> simp_all [isRequest, isDriver, isMissing]

end FaultKind

/-- A fault with its text; a database fault may carry the text of the engine's own error. -/
structure Fault where
  kind : FaultKind
  text : String
  cause : Option String
deriving DecidableEq, Repr

namespace Fault

def plain (kind : FaultKind) (text : String) : Fault := ⟨kind, text, none⟩

/-- The engine's own text if there is one, else the text of the fault. -/
def detail (f : Fault) : String := f.cause.getD f.text

/-- What a statement's error tells: the engine's own text, else the fault's text, else the kind's name. -/
def driverMessage (f : Fault) : String :=
  match f.cause with
  | some text => text
  | none => if f.text = "" then f.kind.name else f.text

end Fault

end SinkKeeper
