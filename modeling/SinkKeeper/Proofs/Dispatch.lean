import SinkKeeper.Proofs.Addresses
import SinkKeeper.Topic.Proxy

/-!
# Topic calls

A topic call stands for an operation if its method is known and its body holds an object. Every other call is refused
before a master is asked, unless its body is not read to its end: it nests deeper than the runtime has room for, or it
holds a whole number of too many digits.
-/

namespace SinkKeeper

open SinkKeeper.Text SinkKeeper.Number

/-! ## Shapes of documents -/

namespace Json

variable {key : String} {p : Json → Prop} {j : Json}

def IsList (p : Json → Prop) (j : Json) : Prop := ∃ items, j = .array items ∧ ∀ item ∈ items, p item

def HasField (key : String) (p : Json → Prop) (j : Json) : Prop :=
  ∃ fields value, j = .object fields ∧ fields.lookup key = some value ∧ p value

instance [DecidablePred p] : DecidablePred (IsList p)
  | .array items => decidable_of_iff (∀ item ∈ items, p item)
      ⟨fun h => ⟨items, rfl, h⟩, fun ⟨_, hj, h⟩ => by cases hj; exact h⟩
  | .null | .bool _ | .number _ | .string _ | .object _ => isFalse fun ⟨_, hj, _⟩ => by cases hj

instance [DecidablePred p] : DecidablePred (HasField key p)
  | .object fields => decidable_of_iff (∃ value ∈ fields.lookup key, p value)
      ⟨fun ⟨value, hvalue, h⟩ => ⟨fields, value, rfl, hvalue, h⟩,
        fun ⟨_, value, hj, hvalue, h⟩ => by cases hj; exact ⟨value, hvalue, h⟩⟩
  | .null | .bool _ | .number _ | .string _ | .array _ => isFalse fun ⟨_, _, hj, _⟩ => by cases hj

theorem HasField.fieldOrNull {fields : Fields} (h : HasField key p (.object fields)) :
    p (Json.fieldOrNull fields key) := by
  obtain ⟨_, value, hfields, hlookup, hp⟩ := h
  cases hfields
  rwa [Json.fieldOrNull, hlookup]

theorem IsList.itemsOrNone (h : IsList p j) : ∃ items, j.itemsOrNone = .ok items ∧ ∀ item ∈ items, p item := by
  obtain ⟨items, rfl, hp⟩ := h
  cases items with
  | nil => exact ⟨[], rfl, hp⟩
  | cons item items => exact ⟨item :: items, rfl, hp⟩

theorem fieldsFor_fails (j : Json) (operation : String) :
    Fails (fun e => e = .noOperation j.kind operation ∧ j.kind ≠ .object) (j.fieldsFor operation) := by
  cases j with
  | object fields => exact .ok
  | number n => cases n <;> exact .error ⟨rfl, fun h => by cases h⟩
  | _ => exact .error ⟨rfl, fun h => by cases h⟩

/-! ## Numbers of too many digits -/

section Digits

variable {cs : List Char} {c : Char}

theorem wholePart_digits (h : ∀ c ∈ cs, isAsciiDigit c = true) (hzero : cs.head? ≠ some '0') :
    wholePart cs = (cs, []) := by
  have htake : (cs ++ []).takeWhile isAsciiDigit = cs := by
    rw [List.takeWhile_append_of_pos h, List.takeWhile_nil, List.append_nil]
  rw [List.append_nil] at htake
  unfold wholePart
  split
  · exact absurd rfl hzero
  · rw [htake, dropWhile_of_all h]

theorem numberFrom_digits (h : ∀ c ∈ cs, isAsciiDigit c = true) (hzero : cs.head? ≠ some '0')
    (hlong : digitLimit < cs.length) (offset : Nat) : numberFrom ⟨offset, cs⟩ = .error (.tooLong cs.length) := by
  have hsign : ∀ rest, cs ≠ '-' :: rest := by
    rintro rest rfl
    cases h '-' List.mem_cons_self
  have hempty : cs.isEmpty = false :=
    List.isEmpty_eq_false_iff.mpr (List.ne_nil_of_length_pos (Nat.zero_lt_of_lt hlong))
  unfold numberFrom
  dsimp only
  split
  · exact absurd rfl (hsign _)
  · simp only [wholePart_digits h hzero]
    simp [hempty, fractionPart, exponentPart, hlong]

theorem named?_digit (h : isAsciiDigit c = true) (offset : Nat) : named? ⟨offset, c :: cs⟩ = none := by
  have hletters : ∀ name ∈ namedValues.map (·.1), ∃ a as, name.toList = a :: as ∧ isAsciiDigit a = false := by
    simp only [namedValues, List.map_cons, List.map_nil, List.forall_mem_cons]
    refine ⟨?_, ?_, ?_, ?_, ?_, ?_, fun _ h => by cases h⟩ <;> exact ⟨_, _, rfl, rfl⟩
  refine List.findSome?_eq_none_iff.mpr fun entry hentry => ?_
  obtain ⟨a, as, hname, ha⟩ := hletters _ (List.mem_map_of_mem hentry)
  simp [hname, after?, (ne_of_isAsciiDigit h ha).symm]

theorem isGap_digit (h : isAsciiDigit c = true) : isGap c = false := by
  have hne := fun x hx => ne_of_isAsciiDigit (x := x) h hx
  simp [isGap, hne ' ' rfl, hne '\t' rfl, hne '\n' rfl, hne '\r' rfl]

theorem skipGaps_digit (h : isAsciiDigit c = true) (offset : Nat) :
    Cursor.skipGaps ⟨offset, c :: cs⟩ = ⟨offset, c :: cs⟩ := by
  simp [Cursor.skipGaps, isGap_digit h]

/-- Digits alone that are too many for a whole number. -/
theorem parse_digits [Runtime] (h : ∀ c ∈ cs, isAsciiDigit c = true) (hzero : cs.head? ≠ some '0')
    (hlong : digitLimit < cs.length) : Json.parse (String.ofList cs) = .error (.numeralTooLong cs.length) := by
  obtain ⟨c, rest, rfl⟩ := List.exists_cons_of_length_pos (Nat.zero_lt_of_lt hlong)
  have hc := h c List.mem_cons_self
  have hbom : (c :: rest).head? ≠ some '\uFEFF' := by
    simpa using ne_of_isAsciiDigit (x := '\uFEFF') hc rfl
  have hvalue : valueFrom Runtime.room (2 * (c :: rest).length + 2) ⟨0, c :: rest⟩ =
      .error (.tooLong (c :: rest).length) := by
    rw [valueFrom]
    -- A digit opens no text, no array and no object, and begins no named value.
    split
    · rename_i hquote
      cases hquote
      cases hc
    · rename_i hbracket
      cases hbracket
      cases hc
    · rename_i hbrace
      cases hbrace
      cases hc
    · rw [named?_digit hc]
      exact numberFrom_digits h hzero hlong 0
  have hdocument : documentFrom (c :: rest) = .error (.tooLong (c :: rest).length) := by
    unfold documentFrom
    rw [if_neg hbom, skipGaps_digit hc, hvalue]
    rfl
  rw [parse, String.toList_ofList, hdocument]

end Digits

/-! ## Lists without room -/

theorem skipGaps_bracket (offset : Nat) (cs : List Char) :
    Cursor.skipGaps ⟨offset, '[' :: cs⟩ = ⟨offset, '[' :: cs⟩ := rfl

section Brackets

variable [Runtime] {levels : Nat} (rest : List Char)

/-- Opening one list more than there is room for, with fuel for all of them. -/
theorem valueFrom_brackets (levels fuel offset : Nat) :
    valueFrom (some levels) (2 * levels + fuel + 1) ⟨offset, List.replicate (levels + 1) '[' ++ rest⟩ =
      .error (.missed .listRoom (offset + levels)) := by
  induction levels generalizing offset with
  | zero => rfl
  | succ levels ih =>
      have hfuel : 2 * (levels + 1) + fuel + 1 = (2 * levels + fuel + 1) + 1 + 1 := by omega
      have hinside : valueFrom (some levels) (2 * levels + fuel + 1)
          ⟨offset + 1, List.replicate (levels + 1) '[' ++ rest⟩ =
            .error (.missed .listRoom (offset + (levels + 1))) := by
        rw [ih, Nat.add_assoc, Nat.add_comm 1]
      rw [List.replicate_succ, List.cons_append] at hinside ⊢
      rw [hfuel, valueFrom]
      simp only [roomInside?]
      rw [List.replicate_succ, List.cons_append, skipGaps_bracket]
      dsimp only
      rw [itemsFrom, hinside]
      rfl

/-- A text that opens more lists than there is room for is not read, whatever follows. -/
theorem parse_brackets (hroom : Runtime.room = some levels) :
    ∃ place, Json.parse (String.ofList (List.replicate (levels + 1) '[' ++ rest)) =
      .error (.malformed .listRoom place) := by
  have hfuel : 2 * (List.replicate (levels + 1) '[' ++ rest).length + 2 = 2 * levels + (2 * rest.length + 3) + 1 := by
    rw [List.length_append, List.length_replicate]
    omega
  have hvalue := valueFrom_brackets rest levels (2 * rest.length + 3) 0
  have hdocument : documentFrom (List.replicate (levels + 1) '[' ++ rest) = .error (.missed .listRoom levels) := by
    rw [← hfuel, ← hroom, Nat.zero_add] at hvalue
    unfold documentFrom
    rw [List.replicate_succ, List.cons_append] at hvalue ⊢
    rw [if_neg (by simp), skipGaps_bracket, hvalue]
    rfl
  exact ⟨_, by rw [parse, String.toList_ofList, hdocument]⟩

end Brackets

end Json

/-! ## Replies -/

namespace Topic

variable {m : Masters} {request : Json.Fields}

/-- The reply is the page of an answer. -/
def Reply.Shows [Runtime] (answer : Json.Fields) (reply : Reply) : Prop :=
  ∃ text status, reply = .page text status ∧ Json.parse text = .ok (.object answer)

/-- The broker tells how it runs by a value of a kind that has no fields. -/
def RunsAs (kind : Json.Kind) (broker : Json.Fields) : Prop :=
  let running := Json.fieldOrNull broker "runInfo"
  running.isTruthy = true ∧ running.kind = kind ∧ kind ≠ .object

theorem acceptsPublish_fails (broker : Json.Fields) :
    Fails (fun e => ∃ kind, e = .noOperation kind "get" ∧ RunsAs kind broker) (acceptsPublish broker) := by
  unfold acceptsPublish
  dsimp only
  split
  next htruthy =>
    have hfields := (Json.fieldOrNull broker "runInfo").fieldsFor_fails "get"
    exact (hfields.imp fun e he => ⟨_, he.1, htruthy, rfl, he.2⟩).bind fun _ _ => .ok
  next => exact .ok

/-! ## Masters -/

def Failure.OfMaster (e : Failure) : Prop := ∃ reason, e = .master reason

/-- A cluster that no master is known of is told by its reason. -/
theorem Masters.addressOf_fails [Runtime] (m : Masters) (cluster : Json) :
    Fails Failure.OfMaster (m.addressOf cluster) := by
  unfold Masters.addressOf
  dsimp only
  split
  · split
    · exact .ok
    · exact .error ⟨_, rfl⟩
  · split
    · split
      · exact .error ⟨_, rfl⟩
      · exact .ok
    · exact .error ⟨_, rfl⟩

/-! ## Calls -/

theorem Method.name_of_ofName? {name : String} {known : Method} (h : Method.ofName? name = some known) :
    name = known.name := by
  have hname := List.find?_some h
  exact (beq_iff_eq.mp hname).symm

section Calls

variable [Runtime]

/-- A method and a body that stand for an operation with its parameters. -/
def Served (method body : Option String) : Prop :=
  ∃ (known : Method) (request : Json.Fields),
    method = some known.name ∧ Json.parse (body.getD "") = .ok (.object request)

/-- A known method with a body that is not read to its end. -/
def Unread (method body : Option String) (e : Json.ParseError) : Prop :=
  (∃ known : Method, method = some known.name) ∧ Json.parse (body.getD "") = .error e ∧ e.isSyntax = false

/-- A verdict that refuses, without any request. -/
structure Refused (verdict : Verdict) (wire after : Wire) : Prop where
  code : verdict.code = -1
  accepted : verdict.accepted = false
  requests : after.requests = wire.requests

variable {wire : Wire} {body : Option String} {known : Method}

/-- The wire with the notes of a call that came in. -/
def Wire.received (method body : Option String) (wire : Wire) : Wire :=
  { wire with notes := wire.notes ++
      [⟨.info, "Received method for topicMethodProxy: " ++ noteText method⟩] ++
      [⟨.info, "Received req for topicMethodProxy: " ++ noteText body⟩] }

theorem dispatch_served (hparse : Json.parse (body.getD "") = .ok (.object request)) :
    dispatch m (some known.name) body wire = known.run m request (wire.received (some known.name) body) := by
  simp only [dispatch, Option.bind_some, Method.ofName?_name, hparse]
  rfl

theorem dispatch_unread {e : Json.ParseError} (h : Unread (some known.name) body e) :
    dispatch m (some known.name) body wire = .error (.unparsed e) (wire.received (some known.name) body) := by
  simp only [dispatch, Option.bind_some, Method.ofName?_name, h.2.1, h.2.2]
  rfl

/-- A call that stands for no operation is refused. -/
theorem dispatch_unserved (m : Masters) (wire : Wire) {method : Option String} (hserved : ¬Served method body)
    (hread : ¬∃ e, Unread method body e) :
    ∃ verdict after, dispatch m method body wire = .ok verdict after ∧ Refused verdict wire after := by
  cases hmethod : method.bind Method.ofName? with
  | none =>
    simp only [dispatch, hmethod]
    exact ⟨_, _, rfl, rfl, rfl, rfl⟩
  | some known =>
    obtain ⟨name, rfl, hname⟩ := Option.bind_eq_some_iff.mp hmethod
    cases Method.name_of_ofName? hname
    simp only [dispatch, hmethod]
    cases hparse : Json.parse (body.getD "") with
    | error e =>
      have htold : e.isSyntax = true :=
        (Bool.eq_false_or_eq_true _).resolve_right fun h => hread ⟨e, ⟨known, rfl⟩, hparse, h⟩
      simp only [htold, if_true]
      exact ⟨_, _, rfl, rfl, rfl, rfl⟩
    | ok document =>
      cases document with
      | object request => exact absurd ⟨known, request, rfl, hparse⟩ hserved
      | _ => exact ⟨_, _, rfl, rfl, rfl, rfl⟩

/-- The fields of a body that holds an object. -/
def objectIn? (body : Option String) : Option Json.Fields :=
  match Json.parse (body.getD "") with
  | .ok (.object fields) => some fields
  | _ => none

theorem parse_of_objectIn? (h : objectIn? body = some request) : Json.parse (body.getD "") = .ok (.object request) := by
  unfold objectIn? at h
  split at h
  · next fields hparse =>
    cases h
    exact hparse
  · cases h

/-- The verdict of a call that does not fail, with what it leaves. -/
def verdict? : EStateM.Result Failure Wire Verdict → Option (Verdict × Wire)
  | .ok verdict after => some (verdict, after)
  | .error .. => none

end Calls

def canWriteBody : String := (Json.object [("topicName", .string "t"), ("clusterId", .int 1)]).render .spaced

def oneMaster : Masters := ⟨[("1", "10.0.0.7:8080")], .whole 3⟩

end Topic

end SinkKeeper
