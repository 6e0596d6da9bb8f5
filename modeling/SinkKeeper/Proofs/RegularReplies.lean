import SinkKeeper.Proofs.Replies

/-!
# Regular replies

Masters that work answer with success and tell of brokers as they have them, or cannot be reached. With them a call
ends with a verdict, but for three things that are named here: a body that is not read to its end, fields that a request
cannot carry, and a broker that tells in one word how it runs.
-/

namespace SinkKeeper.Topic

variable {m : Masters} {request answer : Json.Fields} {replies : List Reply} {reply : Reply}

/-! ## Answers -/

/-- A broker as masters tell it: an object that says whether it takes messages. -/
def IsBroker : Json → Prop := Json.HasField "acceptPublish" fun value => value.kind = .bool ∨ value.kind = .text

instance : DecidablePred IsBroker := inferInstanceAs (DecidablePred (Json.HasField _ _))

def IsTopic : Json → Prop := Json.HasField "topicInfo" (Json.IsList IsBroker)

instance : DecidablePred IsTopic := inferInstanceAs (DecidablePred (Json.HasField _ _))

/-- An answer of success, with the brokers of each topic. -/
structure IsAnswer (answer : Json) : Prop where
  code : answer.HasField "errCode" fun value => value.toWhole.toOption = some 0
  topics : answer.HasField "data" (Json.IsList IsTopic)

instance : DecidablePred IsAnswer := fun answer =>
  decidable_of_iff (answer.HasField "errCode" (fun value => value.toWhole.toOption = some 0) ∧
    answer.HasField "data" (Json.IsList IsTopic)) ⟨fun h => ⟨h.1, h.2⟩, fun h => ⟨h.code, h.topics⟩⟩

theorem IsAnswer.lookup (h : IsAnswer (.object answer)) :
    ∃ code, answer.lookup "errCode" = some code ∧ code.toWhole.toOption = some 0 := by
  obtain ⟨_, code, hfields, hlookup, hzero⟩ := h.code
  cases hfields
  exact ⟨code, hlookup, hzero⟩

theorem IsAnswer.brokersOf (h : IsAnswer (.object answer)) : ∃ brokers, brokersOf answer = .ok brokers := by
  obtain ⟨topics, htopics, hall⟩ := h.topics.fieldOrNull.itemsOrNone
  refine brokersOf_of_lists htopics fun topic htopic => ?_
  have hlists : IsTopic (.object topic) := hall _ (mem_objectsOf.mp htopic)
  obtain ⟨brokers, hbrokers, -⟩ := hlists.fieldOrNull.itemsOrNone
  exact ⟨brokers, hbrokers⟩

/-! ## Replies -/

theorem nextReply_mem_or (replies : List Reply) :
    nextReply replies ∈ replies ∨ nextReply replies = Exchange.noReply := by
  cases replies with
  | nil => exact .inr rfl
  | cons reply rest => exact .inl List.mem_cons_self

/-- Only asking whether a topic can be written to looks at how brokers run. -/
theorem Method.use_eq_permission {known : Method} {i : Nat} (h : known.use i = .permission) :
    known = .queryCanWrite := by
  cases known with
  | queryCanWrite => rfl
  | clone => cases i <;> cases h
  | _ => cases h

section Regular

variable [Runtime]

/-- What a master brings back that answers with success or cannot be reached. -/
def Reply.Regular : Reply → Prop
  | .page text _ => ∃ answer, Json.parse text = .ok answer ∧ IsAnswer answer
  | .failed f => f.kind.isRequest = true

instance : DecidablePred Reply.Regular
  | .page text _ =>
    match h : Json.parse text with
    | .ok answer => decidable_of_iff (IsAnswer answer)
        ⟨fun ha => ⟨answer, h, ha⟩, fun ⟨_, hparse, ha⟩ => by cases h.symm.trans hparse; exact ha⟩
    | .error _ => isFalse fun ⟨_, hparse, _⟩ => by cases h.symm.trans hparse
  | .failed f => inferInstanceAs (Decidable (f.kind.isRequest = true))

theorem Reply.Regular.ofRequest (h : reply.Regular) : reply.OfRequest := by
  cases reply with
  | page text status => trivial
  | failed f => exact h

theorem Reply.Regular.isAnswer (h : reply.Regular) (hshows : reply.Shows answer) : IsAnswer (.object answer) := by
  obtain ⟨text, status, rfl, hparse⟩ := hshows
  obtain ⟨document, hdocument, hanswer⟩ := h
  cases hparse.symm.trans hdocument
  exact hanswer

/-- A reply shows a broker that tells how it runs by a value without fields. -/
def Puzzling (reply : Reply) (e : Failure) : Prop :=
  ∃ kind, e = .shape (.noOperation kind "get") ∧ ∃ answer brokers, reply.Shows answer ∧
    brokersOf answer = .ok brokers ∧ ∃ broker ∈ brokers, RunsAs kind broker

/-- Of all that is baffling, a regular reply has puzzling brokers only. -/
theorem Reply.Regular.baffles {use : Use} {e : Failure} (h : reply.Regular) (hbaffles : Baffles use reply e) :
    use = .permission ∧ Puzzling reply e := by
  cases hbaffles with
  | unread hparse =>
      obtain ⟨document, hdocument, -⟩ := h
      cases hparse.symm.trans hdocument
  | endless hshows hcode =>
      obtain ⟨code, hlookup, hzero⟩ := (h.isAnswer hshows).lookup
      cases hcode.symm.trans hlookup
      cases hzero
  | unlisted huse hshows hunlisted =>
      obtain ⟨brokers, hbrokers⟩ := (h.isAnswer hshows).brokersOf
      cases hbrokers.symm.trans (brokersOf_eq_error.mpr ⟨_, rfl, hunlisted⟩)
  | puzzling hshows hbrokers hbefore hruns =>
      exact ⟨rfl, _, rfl, _, _, hshows, hbrokers, _, List.mem_append_right _ List.mem_cons_self, hruns⟩

/-! ## Calls -/

/-- On regular replies an operation fails only for fields that a request cannot carry, after requests for all fields
before them, or for a puzzling broker. -/
theorem Heeds.fails_regular {known : Method} {count : Nat} {e : Failure}
    (h : Heeds m (known.Asks request replies) known.use replies count (.error e))
    (hregular : ∀ reply ∈ replies, reply.Regular) :
    (e = .shape .unencodable ∧ ∃ fields, known.Asks request replies count fields ∧ m.Balks fields) ∨
      known = .queryCanWrite ∧ ∃ reply ∈ replies, Puzzling reply e := by
  rcases (h.raises e).mp rfl with ⟨last, -, hbaffles⟩ | ⟨rfl, -, hbalks⟩
  · have hlater : ∀ reply ∈ replies.drop last, reply.Regular := fun reply hmem =>
      hregular reply (List.mem_of_mem_drop hmem)
    have hnext : (nextReply (replies.drop last)).Regular := nextReply_of_forall rfl hlater
    obtain ⟨huse, hpuzzling⟩ := hnext.baffles hbaffles
    refine .inr ⟨Method.use_eq_permission huse, nextReply (replies.drop last), ?_, hpuzzling⟩
    rcases nextReply_mem_or (replies.drop last) with hmem | hnone
    · exact List.mem_of_mem_drop hmem
    · obtain ⟨_, -, _, _, ⟨_, _, hpage, -⟩, -⟩ := hpuzzling
      cases hnone.symm.trans hpage
  · exact .inl ⟨rfl, hbalks⟩

/-- A call ends with a verdict, and one that stands for no operation is refused, unless its body is not read to its end,
a request cannot carry its fields, or a broker is puzzling. -/
theorem dispatch_answers (m : Masters) (method body : Option String) (wire : Wire)
    (hregular : ∀ reply ∈ wire.replies, reply.Regular) :
    (∃ verdict after, dispatch m method body wire = .ok verdict after ∧
      (¬∃ e, Unread method body e) ∧ (¬Served method body → Refused verdict wire after)) ∨
    (∃ e after, dispatch m method body wire = .error (.unparsed e) after ∧
      Unread method body e ∧ after.requests = wire.requests) ∨
    (∃ after sent, dispatch m method body wire = .error (.shape .unencodable) after ∧
      after.requests = wire.requests ++ sent ∧ ∃ (known : Method) (request fields : Json.Fields),
        method = some known.name ∧ Json.parse (body.getD "") = .ok (.object request) ∧
        known.Asks request wire.replies sent.length fields ∧ m.Balks fields) ∨
    ∃ e after, dispatch m method body wire = .error e after ∧ method = some Method.queryCanWrite.name ∧
      Served method body ∧ ∃ reply ∈ wire.replies, Puzzling reply e := by
  -- A body that is not read is no document, so only the served ones reach a master.
  by_cases hread : ∃ e, Unread method body e
  · obtain ⟨e, hunread⟩ := hread
    obtain ⟨⟨known, rfl⟩, -⟩ := id hunread
    exact .inr (.inl ⟨e, _, dispatch_unread hunread, hunread, rfl⟩)
  by_cases hserved : Served method body
  · obtain ⟨known, request, rfl, hparse⟩ := id hserved
    obtain ⟨sent, r, hgives, hheeds⟩ := dispatch_heeds m known hparse fun reply hmem => (hregular reply hmem).ofRequest
    obtain ⟨after, hcall, hrequests, -⟩ := hgives wire rfl
    cases r with
    | ok verdict => exact .inl ⟨verdict, after, hcall, hread, fun h => absurd hserved h⟩
    | error e =>
        rcases hheeds.fails_regular hregular with ⟨rfl, fields, hasks, hbalks⟩ | ⟨rfl, hpuzzling⟩
        · exact .inr (.inr (.inl ⟨after, sent, hcall, hrequests, known, request, fields, rfl, hparse, hasks, hbalks⟩))
        · exact .inr (.inr (.inr ⟨e, after, hcall, rfl, hserved, hpuzzling⟩))
  · obtain ⟨verdict, after, hcall, hrefused⟩ := dispatch_unserved m wire hserved hread
    exact .inl ⟨verdict, after, hcall, hread, fun _ => hrefused⟩

/-- A body of digits alone, too many for a whole number, is not read, and no verdict tells so. -/
theorem dispatch_digits {cs : List Char} (h : ∀ c ∈ cs, Text.isAsciiDigit c = true) (hzero : cs.head? ≠ some '0')
    (hlong : Number.digitLimit < cs.length) (m : Masters) (known : Method) (wire : Wire) :
    ∃ after, dispatch m (some known.name) (some (String.ofList cs)) wire =
      .error (.unparsed (.numeralTooLong cs.length)) after ∧ after.requests = wire.requests :=
  ⟨_, dispatch_unread ⟨⟨known, rfl⟩, Json.parse_digits h hzero hlong, rfl⟩, rfl⟩

/-- Neither is a body that opens more lists than there is room for. -/
theorem dispatch_brackets {levels : Nat} (hroom : Runtime.room = some levels) (rest : List Char) (m : Masters)
    (known : Method) (wire : Wire) :
    ∃ place after, dispatch m (some known.name) (some (String.ofList (List.replicate (levels + 1) '[' ++ rest))) wire =
      .error (.unparsed (.malformed .listRoom place)) after ∧ after.requests = wire.requests := by
  obtain ⟨place, hparse⟩ := Json.parse_brackets rest hroom
  exact ⟨place, _, dispatch_unread ⟨⟨known, rfl⟩, hparse, rfl⟩, rfl⟩

end Regular

/-! ## Calls with one master -/

/-- An answer with two brokers of a topic, of which one takes no messages. -/
def twoBrokers : Json :=
  .object [("errCode", .int 0), ("data", .array [.object [("topicInfo", .array
    [.object [("acceptPublish", .bool true)], .object [("acceptPublish", .string "false")]])]])]

/-- A master that answers the first request and takes too long for the second. -/
def slowWire : Wire :=
  ⟨[.page (twoBrokers.render .spaced) 200, .failed (.plain .requestTimeout "timed out")], [], []⟩

theorem dispatch_answers_canWrite :
    (∀ reply ∈ slowWire.replies, reply.Regular) ∧
    ∃ verdict after, dispatch oneMaster (some "queryCanWrite") (some canWriteBody) slowWire = .ok verdict after ∧
      verdict.accepted = false ∧ after.requests.length = 1 ∧
      ¬∃ e, Unread (some "queryCanWrite") (some canWriteBody) e := by
  have hregular : ∀ reply ∈ slowWire.replies, reply.Regular := by decide +kernel
  have hrun : (verdict? (dispatch oneMaster (some "queryCanWrite") (some canWriteBody) slowWire)).any
      (fun p => !p.1.accepted && p.2.requests.length == 1) = true := by decide +kernel
  rcases dispatch_answers oneMaster (some "queryCanWrite") (some canWriteBody) slowWire hregular with
    ⟨verdict, after, hcall, hread, -⟩ | ⟨e, after, hcall, -⟩ | ⟨after, sent, hcall, -⟩ | ⟨e, after, hcall, -⟩
  · rw [hcall, verdict?, Option.any_some, Bool.and_eq_true, Bool.not_eq_true', beq_iff_eq] at hrun
    exact ⟨hregular, verdict, after, hcall, hrun.1, hrun.2, hread⟩
  all_goals
    rw [hcall] at hrun
    cases hrun

/-- An answer with a broker that tells in one word how it runs. -/
def wordyBroker : Json :=
  .object [("errCode", .int 0), ("data", .array [.object [("topicInfo", .array
    [.object [("acceptPublish", .bool true), ("runInfo", .string "up")]])]])]

example :
    (match dispatch oneMaster (some "queryCanWrite") (some canWriteBody)
        ⟨[.page (wordyBroker.render .spaced) 200], [], []⟩ with
      | .error (.shape (.noOperation .text "get")) _ => true
      | _ => false) = true := by decide +kernel

-- A name that is half of a pair is read, and no request can carry it.
example :
    (match @dispatch (.reserving 100) oneMaster (some "add") (some "\x7b\"clusterId\":1,\"topicName\":\"\\ud800\"\x7d")
        ⟨[], [], []⟩ with
      | .error (.shape .unencodable) after => after.requests.isEmpty
      | _ => false) = true := by decide +kernel

/-- A body of ones, one more than a whole number may have. -/
theorem dispatch_raises_of_ones :
    ∃ after, dispatch oneMaster (some "add") (some (String.ofList (List.replicate 4301 '1'))) ⟨[], [], []⟩ =
      .error (.unparsed (.numeralTooLong 4301)) after ∧ after.requests = [] := by
  have hdigits : ∀ c ∈ List.replicate 4301 '1', Text.isAsciiDigit c = true := fun c hc => by
    cases List.eq_of_mem_replicate hc
    rfl
  have hzero : (List.replicate 4301 '1').head? ≠ some '0' := by
    rw [List.head?_replicate, if_neg (by omega)]
    decide
  have hraises := dispatch_digits hdigits hzero (by rw [List.length_replicate]; decide) oneMaster .add ⟨[], [], []⟩
  rwa [List.length_replicate] at hraises

end SinkKeeper.Topic
