import SinkKeeper.Server.Basic

/-!
# Scripted servers

A server that follows a script: rules that answer queries, and calls that are made to break.
-/

namespace SinkKeeper

/-- The kinds of call, which are counted one by one. -/
inductive CallKind
  | createEngine
  | connect
  | query
  | exec
  | commit
  | rollback
  | start
  | close
  | dispose
deriving DecidableEq, Repr

def Call.kind : Call → CallKind
  | .createEngine .. => .createEngine
  | .connect => .connect
  | .query .. => .query
  | .exec _ => .exec
  | .commit => .commit
  | .rollback => .rollback
  | .start => .start
  | .close => .close
  | .dispose => .dispose

/-- The statement of a call, if it carries one. -/
def Call.sql? : Call → Option String
  | .query sql _ | .exec sql => some sql
  | _ => none

/-! ## Values bound to names -/

mutual
/-- Whether two values are equal, numbers and truth values by what they count. -/
def Json.same : Json → Json → Bool
  | .null, .null => true
  | .bool a, .bool b => a == b
  | .bool a, .number n => n.same (.whole (if a then 1 else 0))
  | .number n, .bool b => n.same (.whole (if b then 1 else 0))
  | .number m, .number n => m.same n
  | .string s, .string t => s == t
  | .array xs, .array ys => Json.sameItems xs ys
  | .object xs, .object ys => xs.length == ys.length && Json.sameFields xs ys
  | _, _ => false

def Json.sameItems : List Json → List Json → Bool
  | [], [] => true
  | x :: xs, y :: ys => x.same y && Json.sameItems xs ys
  | _, _ => false

def Json.sameFields : List (String × Json) → List (String × Json) → Bool
  | [], _ => true
  | (key, value) :: rest, fields =>
    (match fields.lookup key with
      | some other => value.same other
      | none => false) && Json.sameFields rest fields
end

/-! ## Scripts -/

/-- A rule answers a query that holds a text, binds given values, and comes after a given statement. -/
structure Rule where
  sql : String
  params : Json.Fields
  after : Option String
  answer : Answer

/-- A breakage stops a call of a kind: the call of one number, or every one; with a given text, or any. -/
structure Breakage where
  kind : CallKind
  number : Option Nat
  sql : Option String
  fault : Fault

/-- A script and how far it has run: how often each kind of call was made, and the statements executed. -/
structure Script where
  rules : List Rule
  breakages : List Breakage
  handle : Handle
  calls : List CallKind
  executed : List String

namespace Script

def empty : Script := ⟨[], [], .usable, [], []⟩

def fits (s : Script) (sql : String) (params : Json.Fields) (rule : Rule) : Bool :=
  Text.contains sql rule.sql
    && rule.params.all (fun p => (params.lookup p.1).any (p.2.same ·))
    && rule.after.all fun part => s.executed.any (Text.contains · part)

/-- The answer of the first rule that fits, no rows if none does. -/
def answerQuery (s : Script) (sql : String) (params : Json.Fields) : Answer :=
  ((s.rules.find? (s.fits sql params)).map (·.answer)).getD (.rows [])

/-- Whether a breakage stops the call that is the `number`-th of its kind. -/
def Breakage.stops (c : Call) (number : Nat) (b : Breakage) : Bool :=
  b.kind == c.kind && b.number.all (· == number)
    && b.sql.all fun part => c.sql?.any (Text.contains · part)

def respond (s : Script) (c : Call) : Answer × Script :=
  let s := { s with calls := c.kind :: s.calls }
  match s.breakages.find? (Breakage.stops c (s.calls.count c.kind)) with
  | some b => (.broken b.fault, s)
  | none =>
    match c with
    | .query sql params => (s.answerQuery sql params, s)
    | .exec sql => (.rows [], { s with executed := s.executed ++ [sql] })
    | _ => (.rows [], s)

instance : Server Script := ⟨Script.respond, Script.handle⟩

end Script

end SinkKeeper
