import SinkKeeper.Failure
import SinkKeeper.Text.Search

/-!
# Addresses

Connection strings of the form `scheme://host:port[/database]`, read without any lookup. Parameters after
the database, from `?` or `;` on, are dropped.
-/

namespace SinkKeeper

/-- Where a database is and who connects to it. -/
structure Address where
  scheme : String
  host : String
  port : Nat
  database : Option String
  user : Option String
  password : Option String
deriving DecidableEq, Repr

namespace Address

def leastPort : Nat := 1

def greatestPort : Nat := 65535

/-- What separates a host from its port, and a scheme from them. -/
def schemeMark : List Char := [':', '/', '/']

/-! ## Rejections -/

def wrongScheme (scheme : String) : SinkError :=
  .rejected .scheme ("JDBC URL is invalid, it should start with " ++ scheme)

/-- No `://` follows the scheme. -/
def noMark (scheme : String) : SinkError :=
  .rejected .authority
    ("Invalid JDBC URL format, expected " ++ scheme ++ "://host:port[/database]")

def noAuthority (scheme : String) : SinkError :=
  .rejected .authority ("Invalid JDBC URL format, no host:port found after " ++ scheme ++ "://")

def wrongHostPort (authority : String) : SinkError :=
  .rejected .hostPort ("Invalid host:port format in JDBC URL: " ++ authority)

def wrongPortText (port : String) : SinkError :=
  .rejected .port ("Invalid port number format in JDBC URL: " ++ port)

def wrongPort (port : Int) : SinkError :=
  .rejected .port ("Invalid port number in JDBC URL: " ++ Number.writeInt port)

def wrongHost (host : String) : SinkError :=
  .rejected .host ("Invalid host in JDBC URL: " ++ host)

/-! ## Reading -/

/-- What begins the parameters of a connection string. -/
def isParameterMark (c : Char) : Bool := c = '?' || c = ';'

/-- The database of a path: what stands before the parameters, if anything does. -/
def databaseOf (path : List Char) : Option String :=
  match path.takeWhile (!isParameterMark ·) with
  | [] => none
  | cs => some (String.ofList cs)

def readPort (text : List Char) : Except Failure Nat :=
  if text.isEmpty || !text.all Text.isAsciiDigit then
    .error (.sink (wrongPortText (String.ofList text)))
  else
    match Json.wholeOfText (String.ofList text) with
    | .error e => .error (.shape e)
    | .ok port =>
      if port < leastPort ∨ greatestPort < port then .error (.sink (wrongPort port))
      else .ok port.toNat

def parse (scheme : String) (allowed : Option (List Char → Bool)) (url : String) :
    Except Failure Address := do
  let rest ← match url.toList, Text.after? scheme.toList url.toList with
    | _ :: _, some rest => pure rest
    | _, _ => throw (.sink (wrongScheme scheme))
  let located ← match Text.after? schemeMark rest with
    | some located => pure located
    | none => throw (.sink (noMark scheme))
  let authority := located.takeWhile (· ≠ '/')
  let path := (located.dropWhile (· ≠ '/')).drop 1
  if authority.isEmpty then throw (.sink (noAuthority scheme))
  let (host, portText) ← match Text.pieces ':' authority with
    | [c :: host, port] => pure (c :: host, port)
    | _ => throw (.sink (wrongHostPort (String.ofList authority)))
  let port ← readPort portText
  if allowed.any fun accepts => !accepts host then
    throw (.sink (wrongHost (String.ofList host)))
  return ⟨scheme, String.ofList host, port, databaseOf path, none, none⟩

/-- Reads a loose value as a connection string; what counts as absent begins with no scheme. -/
def parseLoose (scheme : String) (allowed : Option (List Char → Bool)) : Json → Except Failure Address
  | .string url => parse scheme allowed url
  | url =>
    if url.isTruthy then .error (.shape (.noOperation url.kind "startswith"))
    else .error (.sink (wrongScheme scheme))

/-! ## Writing -/

def withCredentials (a : Address) (user password : Option String) : Address :=
  { a with user, password }

def redacted (a : Address) : String :=
  let base := a.scheme ++ "://" ++ a.host ++ ":" ++ Number.writeInt a.port
  match a.database with
  | some database => if database = "" then base else base ++ "/" ++ database
  | none => base

/-- The address as messages show it, without the password. -/
def shown (a : Address) : String :=
  "ConnectionDescriptor(scheme=" ++ Text.quoted a.scheme ++ ", host=" ++ Text.quoted a.host
    ++ ", port=" ++ Number.writeInt a.port ++ ", database=" ++ (Json.optional a.database).shown
    ++ ", user=" ++ (Json.optional a.user).shown ++ ")"

end Address

end SinkKeeper
