import SinkKeeper.Proofs.Forwarding
import SinkKeeper.Proofs.Replies

/-!
# How clones go

A cloning looks its source up, and then asks for its targets one after another with the settings of the first broker
that the source is known on. The first target that is refused ends it, and so does one that no request can carry.
Every step is told here by what its request asks for and by what its reply says.
-/

namespace SinkKeeper.Topic

variable {m : Masters} {address : String} {request answer broker : Json.Fields} {replies : List Reply} {reply : Reply}
  {c : Cloning} {target : Json} {verdict : Verdict}

/-! ## Typed replies -/

/-- A topic that tells its brokers by a list or not at all. What is no object is no topic. -/
def ListsBrokers : Json → Prop
  | .object fields => (Json.fieldOrNull fields "topicInfo").kind ∈ [Json.Kind.null, .list]
  | _ => True

instance : DecidablePred ListsBrokers
  | .object fields => inferInstanceAs (Decidable ((Json.fieldOrNull fields "topicInfo").kind ∈ [Json.Kind.null, .list]))
  | .null | .bool _ | .number _ | .string _ | .array _ => isTrue trivial

/-- An answer with a whole number for its code, and with lists where lists are read. -/
structure IsTyped (answer : Json.Fields) : Prop where
  code : ∃ code ∈ answer.lookup "errCode", code.kind = .whole
  topics : (Json.fieldOrNull answer "data").kind = .null ∨ (Json.fieldOrNull answer "data").IsList ListsBrokers

instance : DecidablePred IsTyped := fun answer =>
  decidable_of_iff ((∃ code ∈ answer.lookup "errCode", code.kind = .whole) ∧
    ((Json.fieldOrNull answer "data").kind = .null ∨ (Json.fieldOrNull answer "data").IsList ListsBrokers))
    ⟨fun h => ⟨h.1, h.2⟩, fun h => ⟨h.code, h.topics⟩⟩

theorem IsTyped.lookup (h : IsTyped answer) : ∃ code : Int, answer.lookup "errCode" = some (.int code) := by
  obtain ⟨value, hlookup, hkind⟩ := h.code
  cases value with
  | number n =>
      cases n with
      | whole code => exact ⟨code, hlookup⟩
      | real x => cases hkind
  | _ => cases hkind

theorem not_itemless {j : Json} {kind : Json.Kind} (h : j.kind ∈ [Json.Kind.null, .list]) : ¬j.Itemless kind := by
  rintro ⟨-, rfl, hitemless⟩
  revert h hitemless
  cases j.kind <;> decide

theorem IsTyped.items (h : IsTyped answer) :
    ∃ topics, (Json.fieldOrNull answer "data").itemsOrNone = .ok topics ∧ ∀ topic ∈ topics, ListsBrokers topic := by
  rcases h.topics with hnull | hlist
  · cases hdata : Json.fieldOrNull answer "data" with
    | null => exact ⟨[], rfl, fun _ h => absurd h List.not_mem_nil⟩
    | number n =>
        rw [hdata] at hnull
        cases n <;> cases hnull
    | _ =>
        rw [hdata] at hnull
        cases hnull
  · exact hlist.itemsOrNone

theorem IsTyped.brokersOf (h : IsTyped answer) : ∃ brokers, brokersOf answer = .ok brokers := by
  obtain ⟨topics, hdata, hall⟩ := h.items
  refine brokersOf_of_lists hdata fun topic htopic => ?_
  have hlists := hall _ (mem_objectsOf.mp htopic)
  cases hitems : (Json.fieldOrNull topic "topicInfo").itemsOrNone with
  | ok items => exact ⟨items, rfl⟩
  | error e =>
      obtain ⟨kind, -, hlost⟩ := Json.itemsOrNone_eq_error.mp hitems
      exact absurd hlost (not_itemless hlists)

section Clones

variable [Runtime]

/-- The page of a typed answer, or the failure of a request. -/
def Reply.Typed : Reply → Prop
  | .page text _ => ∃ answer, Json.parse text = .ok (.object answer) ∧ IsTyped answer
  | .failed f => f.kind.isRequest = true

instance : DecidablePred Reply.Typed
  | .page text _ =>
    match h : Json.parse text with
    | .ok (.object answer) => decidable_of_iff (IsTyped answer)
        ⟨fun ha => ⟨answer, h, ha⟩, fun ⟨_, hparse, ha⟩ => by cases h.symm.trans hparse; exact ha⟩
    | .ok .null | .ok (.bool _) | .ok (.number _) | .ok (.string _) | .ok (.array _) | .error _ =>
      isFalse fun ⟨_, hparse, _⟩ => by cases h.symm.trans hparse
  | .failed f => inferInstanceAs (Decidable (f.kind.isRequest = true))

/-- What a reply says of a request: the code, the text and the data of an answer, or why there is none. -/
inductive Tells : Reply → Verdict → Prop
  | answered {reply : Reply} {answer : Json.Fields} {code : Int} (h : reply.Shows answer)
      (hcode : answer.lookup "errCode" = some (.int code)) :
      Tells reply ⟨code, ((Json.fieldOrNull answer "errMsg").orElse (.string "")).text, code = 0,
        Json.fieldOrNull answer "data"⟩
  | unreachable {f : Fault} : Tells (.failed f) (.refused ("request master failed: " ++ f.text))

/-- A typed reply is the page of a typed answer, or the failure of a request. -/
theorem Reply.Typed.cases (h : reply.Typed) :
    (∃ answer, reply.Shows answer ∧ IsTyped answer) ∨ ∃ f, reply = .failed f ∧ f.kind.isRequest = true := by
  cases reply with
  | page text status =>
      obtain ⟨answer, hparse, htyped⟩ := h
      exact .inl ⟨answer, ⟨text, status, rfl, hparse⟩, htyped⟩
  | failed f => exact .inr ⟨f, rfl, h⟩

theorem heard_answer_failed {f : Fault} (h : f.kind.isRequest = true) :
    heard (Reply.failed f).answer = .ok (.error ("request master failed: " ++ f.text)) := by
  simp only [Reply.answer, Reply.content, if_pos h]
  rfl

theorem Reply.Typed.tells (h : reply.Typed) : ∃ verdict, reply.verdict = .ok verdict ∧ Tells reply verdict := by
  rcases h.cases with ⟨answer, hshows, htyped⟩ | ⟨f, rfl, hrequest⟩
  · obtain ⟨code, hlookup⟩ := htyped.lookup
    have hcode : Verdict.codeOf answer = .ok code := by
      simp only [Verdict.codeOf, hlookup]
      rfl
    have hfields : Verdict.ofFields answer = .ok _ := Except.bind_eq_ok.mpr ⟨code, hcode, rfl⟩
    refine ⟨_, Except.bind_eq_ok.mpr ⟨_, heard_answer_eq_ok.mpr hshows, ?_⟩, .answered hshows hlookup⟩
    simp only [judged, hfields]
  · exact ⟨_, Except.bind_eq_ok.mpr ⟨_, heard_answer_failed hrequest, rfl⟩, .unreachable⟩

/-! ## Requests -/

/-- What a new topic is asked for with: the settings that the broker has, and then what the cloning tells. -/
def Cloning.additionFields (c : Cloning) (broker : Json.Fields) (target : Json) : Json.Fields :=
  (clonedSettings.map fun key => (key, Json.fieldOrNull broker key)) ++
    [("method", .string "admin_add_new_topic_record"), ("type", .string "op_modify"), ("topicName", target),
      ("brokerId", .string (",".intercalate (c.brokers.map Json.text))), ("clusterId", c.cluster),
      ("createUser", c.creator)]

/-- The request asks the master for the fields, which it can carry, each once at most. -/
def Request.Asks (m : Masters) (address : String) (fields : Json.Fields) (r : Request) : Prop :=
  canCarry fields = true ∧ ∃ pairs, r.Carries m address pairs ∧ Spells fields pairs ∧ (pairs.map (·.1)).Nodup

theorem Masters.requestTo_asks (m : Masters) (address : String) {fields : Json.Fields}
    (hnodup : (fields.map (·.1)).Nodup) (hcarried : canCarry fields = true) :
    (m.requestTo address fields).Asks m address fields := by
  refine ⟨hcarried, queryPairs fields, m.requestTo_carries address fields, queryPairs_spells fields, ?_⟩
  rw [queryPairs, List.map_map]
  exact hnodup.sublist (List.filter_sublist.map _)

theorem queryPairs_append (fields more : Json.Fields) :
    queryPairs (fields ++ more) = queryPairs fields ++ queryPairs more := by
  rw [queryPairs, List.filter_append, List.map_append, queryPairs, queryPairs]

/-- A setting that the broker does not have is carried as little as one that is null. -/
theorem queryPairs_settings (broker : Json.Fields) (keys : List String) :
    queryPairs (keys.filterMap fun key => (broker.lookup key).map fun value => (key, value)) =
      queryPairs (keys.map fun key => (key, Json.fieldOrNull broker key)) := by
  induction keys with
  | nil => rfl
  | cons key keys ih =>
      rw [List.filterMap_cons, List.map_cons, ← List.singleton_append, queryPairs_append [_], ← ih, Json.fieldOrNull]
      cases broker.lookup key with
      | none => rfl
      | some value => exact queryPairs_append [(key, value)] _

theorem Cloning.queryPairs_additionFields (c : Cloning) (broker : Json.Fields) (target : Json) :
    queryPairs (c.additionFields broker target) = queryPairs (c.fieldsFor (settingsOf broker) target) := by
  rw [fieldsFor, additionFields, queryPairs_append, queryPairs_append, settingsOf, queryPairs_settings,
    join_eq_intercalate]

theorem Cloning.canCarry_additionFields (c : Cloning) (broker : Json.Fields) (target : Json) :
    canCarry (c.additionFields broker target) = canCarry (c.fieldsFor (settingsOf broker) target) := by
  rw [canCarry, queryPairs_additionFields, canCarry]

theorem Cloning.addition_asks (m : Masters) (address : String) (c : Cloning) (broker : Json.Fields) (target : Json)
    (hcarried : canCarry (c.fieldsFor (settingsOf broker) target) = true) :
    (m.requestTo address (c.fieldsFor (settingsOf broker) target)).Asks m address (c.additionFields broker target) := by
  have hrequest : m.requestTo address (c.fieldsFor (settingsOf broker) target) =
      m.requestTo address (c.additionFields broker target) := by
    rw [Masters.requestTo, ← queryPairs_additionFields, Masters.requestTo]
  have hnames : (c.additionFields broker target).map (·.1) = clonedSettings ++
      ["method", "type", "topicName", "brokerId", "clusterId", "createUser"] := rfl
  rw [hrequest]
  rw [← canCarry_additionFields] at hcarried
  exact m.requestTo_asks address (hnames ▸ by decide) hcarried

/-! ## Steps -/

namespace Cloning

/-- How new topics are asked for: in their order, each after a reply of success to the one before. The first reply that
is none is the verdict, and success if there is no such reply. A topic that no request can carry is not asked for, and
there is no verdict. -/
inductive Adds (m : Masters) (address : String) (c : Cloning) (broker : Json.Fields) :
    List Json → List Reply → List Request → Except Failure Verdict → Prop
  | done {replies : List Reply} : Adds m address c broker [] replies [] (.ok .success)
  | next {target : Json} {targets : List Json} {replies : List Reply} {request : Request} {sent : List Request}
      {told : Verdict} {r : Except Failure Verdict} (hasks : request.Asks m address (c.additionFields broker target))
      (htold : Tells (nextReply replies) told) (hcode : told.code = 0)
      (hrest : Adds m address c broker targets (replies.drop 1) sent r) :
      Adds m address c broker (target :: targets) replies (request :: sent) r
  | stopped {target : Json} {targets : List Json} {replies : List Reply} {request : Request} {verdict : Verdict}
      (hasks : request.Asks m address (c.additionFields broker target)) (htold : Tells (nextReply replies) verdict)
      (hcode : verdict.code ≠ 0) (hrefused : verdict.accepted = false) :
      Adds m address c broker (target :: targets) replies [request] (.ok verdict)
  | balked {target : Json} {targets : List Json} {replies : List Reply}
      (hcarried : canCarry (c.additionFields broker target) = false) :
      Adds m address c broker (target :: targets) replies [] (.error (.shape .unencodable))

/-- What a source is looked up with. -/
def lookupFields (c : Cloning) : Json.Fields :=
  [("method", .string "admin_query_topic_info"), ("topicName", .string c.source), ("clusterId", c.cluster)]

/-- How a cloning goes: what it sends, and its verdict if it has one. The code of the reply to the lookup does not
count. -/
inductive Goes (m : Masters) (c : Cloning) (replies : List Reply) : List Request → Except Failure Verdict → Prop
  | unplaced {reason : String} (h : m.addressOf c.cluster = .error (.master reason)) :
      Goes m c replies [] (.ok (.refused reason))
  | balked {address : String} (haddress : m.addressOf c.cluster = .ok address)
      (hcarried : canCarry c.lookupFields = false) : Goes m c replies [] (.error (.shape .unencodable))
  | unreachable {address : String} {lookup : Request} {f : Fault} (haddress : m.addressOf c.cluster = .ok address)
      (hasks : lookup.Asks m address c.lookupFields) (hreply : nextReply replies = .failed f) :
      Goes m c replies [lookup] (.ok (.refused ("request master failed: " ++ f.text)))
  | unknown {address : String} {lookup : Request} {answer : Json.Fields}
      (haddress : m.addressOf c.cluster = .ok address) (hasks : lookup.Asks m address c.lookupFields)
      (hreply : (nextReply replies).Shows answer) (hnone : brokersOf answer = .ok []) :
      Goes m c replies [lookup] (.ok (.refused ("topic not exist: " ++ c.source)))
  | found {address : String} {lookup : Request} {answer broker : Json.Fields} {others : List Json.Fields}
      {sent : List Request} {r : Except Failure Verdict} (haddress : m.addressOf c.cluster = .ok address)
      (hasks : lookup.Asks m address c.lookupFields) (hreply : (nextReply replies).Shows answer)
      (hbrokers : brokersOf answer = .ok (broker :: others))
      (hadds : Adds m address c broker c.targets (replies.drop 1) sent r) :
      Goes m c replies (lookup :: sent) r

theorem code_of_tells (h : Tells reply verdict) : verdict.code = 0 ↔ verdict.accepted = true := by
  cases h with
  | answered => exact decide_eq_true_iff.symm
  | unreachable => exact ⟨fun h => (by cases h), fun h => (by cases h)⟩

theorem Reached.adds {targets : List Json} {sent : List Request} {r : Except Failure Verdict}
    (h : Reached m address c broker targets replies sent r) (hreplies : ∀ reply ∈ replies, reply.Typed) :
    Adds m address c broker targets replies sent r := by
  induction h with
  | done => exact .done
  | next hcarried haccepted _ ih =>
      have hrest := ih fun reply hmem => hreplies reply (List.mem_of_mem_drop hmem)
      obtain ⟨told, htold, htells⟩ := Reply.Typed.tells (nextReply_of_forall rfl hreplies)
      obtain ⟨accepted, hok, haccepted⟩ := haccepted
      cases htold.symm.trans hok
      exact .next (c.addition_asks m address broker _ hcarried) htells ((code_of_tells htells).mpr haccepted) hrest
  | stopped hcarried hrefused =>
      obtain ⟨verdict, hverdict, htells⟩ := Reply.Typed.tells (nextReply_of_forall rfl hreplies)
      have haccepted : ¬verdict.accepted = true := fun h => hrefused ⟨verdict, hverdict, h⟩
      rw [hverdict]
      exact .stopped (c.addition_asks m address broker _ hcarried) htells
        (fun hcode => haccepted ((code_of_tells htells).mp hcode)) (Bool.eq_false_iff.mpr haccepted)
  | balked hcarried =>
      rw [← canCarry_additionFields] at hcarried
      exact .balked hcarried

theorem run_goes (m : Masters) (c : Cloning) (hreplies : ∀ reply ∈ replies, reply.Typed) :
    ∃ sent r, Exchange.Gives (c.run m) replies sent r ∧ c.Goes m replies sent r := by
  rcases m.asked_or (topicInfoFields c.source c.cluster) with ⟨address, haddress, hcarried⟩ | ⟨reason, hlost⟩ | hbalks
  · have hasks : (m.requestTo address (topicInfoFields c.source c.cluster)).Asks m address c.lookupFields :=
      m.requestTo_asks address (show ["method", "topicName", "clusterId"].Nodup by decide) hcarried
    -- The lookup is answered, with brokers or without, or the master is not reached.
    rcases Reply.Typed.cases (nextReply_of_forall rfl hreplies) with ⟨answer, hshows, htyped⟩ | ⟨f, hfailed, hrequest⟩
    · obtain ⟨brokers, hanswer⟩ := htyped.brokersOf
      have hbrokers := brokers_eq_ok.mpr ⟨answer, hshows, hanswer⟩
      cases brokers with
      | nil =>
          have hrun : Exchange.Gives (c.run m) replies _ _ := run_unfound haddress hcarried fun broker rest h => by
            cases hbrokers.symm.trans h
          rw [hbrokers] at hrun
          exact ⟨_, _, hrun, .unknown haddress hasks hshows hanswer⟩
      | cons broker others =>
          obtain ⟨sent, r, hadd, hreached⟩ := addTargets_gives haddress broker c.targets (replies.drop 1)
          have hadds := hreached.adds fun reply hmem => hreplies reply (List.mem_of_mem_drop hmem)
          exact ⟨_, r, run_found haddress hcarried hbrokers hadd, .found haddress hasks hshows hanswer hadds⟩
    · have hbrokers : (nextReply replies).brokers = .ok (.error ("request master failed: " ++ f.text)) := by
        rw [hfailed, Reply.brokers, heard_answer_failed hrequest]
        rfl
      have hrun : Exchange.Gives (c.run m) replies _ _ := run_unfound haddress hcarried fun broker rest h => by
        cases hbrokers.symm.trans h
      rw [hbrokers] at hrun
      exact ⟨_, _, hrun, .unreachable haddress hasks hfailed⟩
  · exact ⟨_, _, run_lost hlost, .unplaced hlost⟩
  · obtain ⟨address, haddress⟩ := hbalks.address
    exact ⟨_, _, run_balked hbalks, .balked haddress hbalks.carried⟩

end Cloning

/-- A clone request sends what its cloning sends and ends as its cloning does, on all typed replies. -/
theorem dispatch_clones (m : Masters) {body : Option String} (hbody : Json.parse (body.getD "") = .ok (.object request))
    (hclone : Cloning.ofRequest? request = some c) (hreplies : ∀ reply ∈ replies, reply.Typed) :
    ∃ sent r, Exchange.Gives (dispatch m (some Method.clone.name) body) replies sent r ∧ c.Goes m replies sent r := by
  obtain ⟨sent, r, hrun, hgoes⟩ := c.run_goes m hreplies
  have hclones : Exchange.Gives (Method.clone.run m request) replies sent r := by
    simp only [Method.run, askClone, hclone]
    exact hrun
  exact ⟨sent, r, dispatch_gives hbody hclones, hgoes⟩

end Clones

/-- A page with a code and one broker of a topic. -/
def brokerPage (code : Int) : Reply :=
  .page ((Json.object [("errCode", .int code), ("data", .array [.object [("topicInfo", .array
    [.object [("numPartitions", .int 3)]])]])]).render .spaced) 200

def plainPage (code : Int) : Reply := .page ((Json.object [("errCode", .int code)]).render .spaced) 200

def cloneBody (targets : String) : String :=
  (Json.object [("clusterId", .int 1), ("sourceTopicName", .string "s"), ("targetTopicNames", .string targets),
    ("brokerId", .int 7)]).render .spaced

theorem dispatch_clones_refused :
    ∃ request c, Json.parse ((some (cloneBody "a, b")).getD "") = .ok (.object request) ∧
      Cloning.ofRequest? request = some c ∧
      (∀ reply ∈ [brokerPage 0, plainPage 101], reply.Typed) ∧
      ∃ sent verdict, Exchange.Gives (dispatch oneMaster (some "clone") (some (cloneBody "a, b")))
          [brokerPage 0, plainPage 101] sent (.ok verdict) ∧
        c.Goes oneMaster [brokerPage 0, plainPage 101] sent (.ok verdict) ∧
        sent.length = 2 ∧ verdict.code = 101 := by
  have hcheck : (objectIn? (some (cloneBody "a, b"))).any
      (fun request => (Cloning.ofRequest? request).isSome) = true := by decide +kernel
  have hreplies : ∀ reply ∈ [brokerPage 0, plainPage 101], reply.Typed := by decide +kernel
  have hrun : (verdict? (dispatch oneMaster (some "clone") (some (cloneBody "a, b"))
        ⟨[brokerPage 0, plainPage 101], [], []⟩)).any
      (fun p => p.1.code == 101 && p.2.requests.length == 2) = true := by decide +kernel
  obtain ⟨request, hobject, hsome⟩ := (Option.any_eq_true _ _).mp hcheck
  have hbody := parse_of_objectIn? hobject
  obtain ⟨c, hclone⟩ := Option.isSome_iff_exists.mp hsome
  obtain ⟨sent, r, hgives, hgoes⟩ := dispatch_clones oneMaster hbody hclone hreplies
  obtain ⟨after, hcall, hrequests, -⟩ := hgives ⟨[brokerPage 0, plainPage 101], [], []⟩ rfl
  rw [show Method.clone.name = "clone" from rfl] at hcall
  rw [hcall] at hrun
  cases r with
  | error e => cases hrun
  | ok verdict =>
      rw [Exchange.ended, verdict?, Option.any_some, Bool.and_eq_true, beq_iff_eq, beq_iff_eq, hrequests] at hrun
      exact ⟨request, c, hbody, hclone, hreplies, sent, verdict, hgives, hgoes, hrun.2, hrun.1⟩

/-- A page with one broker, of which a setting is half of a pair. -/
def halvedPage : Reply :=
  .page "\x7b\x22errCode\x22: 0, \x22data\x22: [\x7b\x22topicInfo\x22: [\x7b\x22deleteWhen\x22: \x22\\ud800\x22\x7d]\x7d]\x7d" 200

example :
    (match @dispatch (.reserving 100) oneMaster (some "clone") (some (cloneBody "a"))
        ⟨[halvedPage, plainPage 0], [], []⟩ with
      | .error (.shape .unencodable) after => after.requests.length == 1
      | _ => false) = true := by decide +kernel

/-- A lookup that is refused, and a cloning that goes on and succeeds. -/
theorem dispatch_clones_despite_refusal :
    (brokerPage 101).Typed ∧ (plainPage 0).Typed ∧
    ∃ verdict after, dispatch oneMaster (some "clone") (some (cloneBody "a")) ⟨[brokerPage 101, plainPage 0], [], []⟩ =
      .ok verdict after ∧ verdict.accepted = true ∧ after.requests.length = 2 := by
  have hrun : (verdict? (dispatch oneMaster (some "clone") (some (cloneBody "a"))
        ⟨[brokerPage 101, plainPage 0], [], []⟩)).any
      (fun p => p.1.accepted && p.2.requests.length == 2) = true := by decide +kernel
  refine ⟨by decide +kernel, by decide +kernel, ?_⟩
  cases hcall : dispatch oneMaster (some "clone") (some (cloneBody "a")) ⟨[brokerPage 101, plainPage 0], [], []⟩ with
  | ok verdict after =>
      rw [hcall, verdict?, Option.any_some, Bool.and_eq_true, beq_iff_eq] at hrun
      exact ⟨verdict, after, rfl, hrun.1, hrun.2⟩
  | error e after =>
      rw [hcall] at hrun
      cases hrun

end SinkKeeper.Topic
