import SinkKeeper.Environment.Basic
import SinkKeeper.Note
import SinkKeeper.Number.Reading
import SinkKeeper.Number.Written
import SinkKeeper.Text.Quoted

/-!
# Time limits

How long a connection, a statement and a request may take. A limit is read from a variable; one that is
no number, or not greater than zero, gives way to the default.
-/

namespace SinkKeeper

open Number (Double)

def defaultConnectLimit : Double := .ofInt 10

def defaultStatementLimit : Double := .ofInt 60

def defaultMasterLimit : Double := .ofInt 10

/-- A limit in seconds, and the notes left while reading it. -/
structure ReadLimit where
  seconds : Double
  notes : List Note

/-- A limit if it is greater than zero, else the default. -/
def positiveOr (default seconds : Double) : Double := if seconds.isPositive then seconds else default

namespace Environment

/-- The text of a variable without blanks around it, empty if it is not set. -/
def stripped (env : Environment) (name : String) : String := Text.strip ((env.get? name).getD "")

/-- Reads a limit; a text that is no number is noted. -/
def limit (env : Environment) (name : String) (default : Double) (complaint : String → String) : ReadLimit :=
  let raw := env.stripped name
  if raw = "" then ⟨default, []⟩
  else
    match Number.readDouble? raw with
    | none => ⟨default, [⟨.warning, complaint raw⟩]⟩
    | some seconds => ⟨positiveOr default seconds, []⟩

def sinkLimit (env : Environment) (name : String) (default : Double) : ReadLimit :=
  env.limit name default fun raw =>
    "Ignoring non-numeric " ++ name ++ "=" ++ Text.quoted raw ++ ", using " ++ Number.writeDouble default

def connectLimit (env : Environment) : ReadLimit := env.sinkLimit "SINK_CONNECT_TIMEOUT" defaultConnectLimit

def statementLimit (env : Environment) : ReadLimit :=
  env.sinkLimit "SINK_STATEMENT_TIMEOUT" defaultStatementLimit

def masterLimit (env : Environment) : ReadLimit :=
  env.limit "MQ_MASTER_TIMEOUT" defaultMasterLimit fun raw =>
    "Ignoring non-numeric MQ_MASTER_TIMEOUT=" ++ Text.quoted raw

end Environment

end SinkKeeper
