import SinkKeeper.Proofs.Dispatch
import SinkKeeper.Proofs.Forms

/-!
# What exchanges send and give

A topic operation takes its replies in order, one for each request that it sends. What it sends and how it ends
depend on them alone, so that each operation is described by its requests and its outcome on given replies. A request
that cannot carry its fields is not sent, and ends the operation.
-/

namespace SinkKeeper.Topic

variable {α β : Type} {m : Masters} {fields : Json.Fields} {address : String} {replies : List Reply}

/-! ## Rules -/

def nextReply (replies : List Reply) : Reply := replies.headD Exchange.noReply

theorem nextReply_of_forall {p : Reply → Prop} (hnone : p Exchange.noReply) (h : ∀ reply ∈ replies, p reply) :
    p (nextReply replies) := by
  cases replies with
  | nil => exact hnone
  | cons reply rest => exact h reply List.mem_cons_self

/-- What is made of a failure by a master: its reason. -/
def heard : Except Failure α → Except Failure (Except String α)
  | .ok a => .ok (.ok a)
  | .error (.master reason) => .ok (.error reason)
  | .error e => .error e

namespace Exchange

def ended : Except Failure α → Wire → EStateM.Result Failure Wire α
  | .ok a, wire => .ok a wire
  | .error e, wire => .error e wire

/-- On the given replies the work sends the requests, takes a reply for each, and ends as told. -/
def Gives (work : Exchange α) (replies : List Reply) (sent : List Request) (r : Except Failure α) : Prop :=
  ∀ wire : Wire, wire.replies = replies →
    ∃ after, work wire = ended r after ∧ after.requests = wire.requests ++ sent ∧
      after.replies = replies.drop sent.length

namespace Gives

variable {work : Exchange α} {sent more : List Request} {r : Except Failure α}

theorem pure {a : α} : Gives (pure a) replies [] (.ok a) :=
  fun wire hwire => ⟨wire, rfl, (List.append_nil _).symm, hwire⟩

theorem throw {e : Failure} : Gives (throw e : Exchange α) replies [] (.error e) :=
  fun wire hwire => ⟨wire, rfl, (List.append_nil _).symm, hwire⟩

theorem lift {x : Except Failure α} : Gives (liftM x : Exchange α) replies [] x := by
  cases x with
  | ok a => exact .pure
  | error e => exact .throw

theorem liftShape {x : Except ShapeError α} : Gives (liftM x : Exchange α) replies [] (x.mapError .shape) := by
  cases x with
  | ok a => exact .pure
  | error e => exact .throw

theorem note {level : Level} {text : String} : Gives (Exchange.note level text) replies [] (.ok ()) :=
  fun wire hwire => ⟨_, rfl, (List.append_nil wire.requests).symm, hwire⟩

theorem send {request : Request} : Gives (Exchange.send request) replies [request] (.ok (nextReply replies)) := by
  rintro ⟨left, requests, notes⟩ rfl
  exact ⟨_, rfl, rfl, List.drop_one.symm⟩

theorem bind {next : α → Exchange β} {a : α} {out : Except Failure β} (hwork : Gives work replies sent (.ok a))
    (hnext : Gives (next a) (replies.drop sent.length) more out) :
    Gives (work >>= next) replies (sent ++ more) out := by
  intro wire hwire
  obtain ⟨after, hrun, hrequests, hreplies⟩ := hwork wire hwire
  obtain ⟨last, hlast, hmore, hleft⟩ := hnext after hreplies
  refine ⟨last, ?_, ?_, ?_⟩
  · change EStateM.bind work next wire = ended out last
    rw [EStateM.bind, hrun]
    exact hlast
  · rw [hmore, hrequests, List.append_assoc]
  · rw [hleft, List.drop_drop, List.length_append]

theorem bind_error {next : α → Exchange β} {e : Failure} (hwork : Gives work replies sent (.error e)) :
    Gives (work >>= next) replies sent (.error e) := by
  intro wire hwire
  obtain ⟨after, hrun, hrequests, hreplies⟩ := hwork wire hwire
  refine ⟨after, ?_, hrequests, hreplies⟩
  change EStateM.bind work next wire = ended (.error e) after
  rw [EStateM.bind, hrun]
  rfl

/-- Work that sends nothing after other work. -/
theorem andThen {next : α → Exchange β} {f : α → Except Failure β} (hwork : Gives work replies sent r)
    (hnext : ∀ a, Gives (next a) (replies.drop sent.length) [] (f a)) :
    Gives (work >>= next) replies sent (r >>= f) := by
  cases r with
  | ok a =>
      have hboth := hwork.bind (hnext a)
      rwa [List.append_nil] at hboth
  | error e => exact hwork.bind_error

theorem afterNote {level : Level} {text : String} {next : Unit → Exchange β} {out : Except Failure β}
    (hnext : Gives (next ()) replies sent out) : Gives (Exchange.note level text >>= next) replies sent out :=
  note.bind hnext

theorem attempt (hwork : Gives work replies sent r) : Gives (Exchange.attempt work) replies sent (heard r) := by
  intro wire hwire
  obtain ⟨after, hrun, hafter⟩ := hwork wire hwire
  refine ⟨after, ?_, hafter⟩
  unfold Exchange.attempt
  rw [hrun]
  cases r with
  | ok a => rfl
  | error e => cases e <;> rfl

end Gives

end Exchange

open Exchange (Gives)

/-! ## Pages -/

/-- The text of a page. A request that failed has none. -/
def Reply.content : Reply → Except Failure String
  | .page text _ => .ok text
  | .failed f =>
    if f.kind.isRequest then .error (.master (masterUnreachable ++ ": " ++ f.text)) else .error (.fault f)

theorem Masters.fetch_gives (url : String) :
    Gives (m.fetch url) replies [⟨url, m.timeout⟩] (nextReply replies).content := by
  refine Gives.send.andThen (f := Reply.content) fun reply => ?_
  cases reply with
  | page text status => exact Gives.afterNote .pure
  | failed f =>
      unfold Reply.content
      dsimp only
      split
      · exact Gives.afterNote .throw
      · exact .throw

/-! ## Settings of a broker -/

namespace Cloning

theorem mem_settingsOf {broker : Json.Fields} {p : String × Json} (h : p ∈ settingsOf broker) :
    p.1 ∈ clonedSettings ∧ broker.lookup p.1 = some p.2 := by
  obtain ⟨key, hkey, hvalue⟩ := List.mem_filterMap.mp h
  obtain ⟨value, hlookup, rfl⟩ := Option.map_eq_some_iff.mp hvalue
  exact ⟨hkey, hlookup⟩

end Cloning

variable [Runtime]

/-! ## Requests -/

/-- The request asks the master at an address for the pairs. -/
structure Request.Carries (m : Masters) (address : String) (pairs : List (String × String)) (r : Request) : Prop where
  url : ∃ query, r.url = "http://" ++ address ++ "/webapi.htm?" ++ query ∧ Text.Form.read query = pairs
  timeout : r.timeout = m.timeout

def Masters.requestTo (m : Masters) (address : String) (fields : Json.Fields) : Request :=
  ⟨"http://" ++ address ++ "/webapi.htm?" ++ Text.Form.write (queryPairs fields), m.timeout⟩

theorem Masters.requestTo_carries (m : Masters) (address : String) (fields : Json.Fields) :
    (m.requestTo address fields).Carries m address (queryPairs fields) :=
  ⟨⟨_, rfl, Text.Form.read_write _⟩, rfl⟩

theorem Masters.queryUrl_of_address (h : m.addressOf (Json.fieldOrNull fields "clusterId") = .ok address)
    (hcarried : canCarry fields = true) : m.queryUrl fields = .ok (m.requestTo address fields).url := by
  have hslash : "http://" ++ address ++ masterPath ++ "?" = "http://" ++ address ++ "/webapi.htm?" := by
    rw [String.append_assoc]
    rfl
  simp only [Masters.queryUrl, h, Masters.requestTo, ← hslash, hcarried]
  rfl

theorem Masters.queryUrl_of_error {e : Failure}
    (h : m.addressOf (Json.fieldOrNull fields "clusterId") = .error e) : m.queryUrl fields = .error e := by
  simp only [Masters.queryUrl, h]
  rfl

/-- The master of the cluster is known, but no request carries the fields. -/
structure Masters.Balks (m : Masters) (fields : Json.Fields) : Prop where
  address : ∃ address, m.addressOf (Json.fieldOrNull fields "clusterId") = .ok address
  carried : canCarry fields = false

theorem Masters.Balks.queryUrl (h : m.Balks fields) : m.queryUrl fields = .error (.shape .unencodable) := by
  obtain ⟨⟨address, haddress⟩, hcarried⟩ := h
  simp only [Masters.queryUrl, haddress, hcarried]
  rfl

/-- A master is asked, or there is none to ask, or the request would not carry the fields. -/
theorem Masters.asked_or (m : Masters) (fields : Json.Fields) :
    (∃ address, m.addressOf (Json.fieldOrNull fields "clusterId") = .ok address ∧ canCarry fields = true) ∨
      (∃ reason, m.addressOf (Json.fieldOrNull fields "clusterId") = .error (.master reason)) ∨ m.Balks fields := by
  cases haddress : m.addressOf (Json.fieldOrNull fields "clusterId") with
  | error e =>
      obtain ⟨reason, rfl⟩ := m.addressOf_fails _ e haddress
      exact .inr (.inl ⟨reason, rfl⟩)
  | ok address =>
      cases hcarried : canCarry fields with
      | true => exact .inl ⟨address, rfl, rfl⟩
      | false => exact .inr (.inr ⟨⟨address, haddress⟩, hcarried⟩)

/-! ## What replies hold -/

def Reply.answer (reply : Reply) : Except Failure Json.Fields := reply.content >>= Masters.answerOf

/-- The verdict of an answer. One whose code is no number is refused. -/
def judged (answer : Json.Fields) : Except Failure Verdict :=
  match Verdict.ofFields answer with
  | .ok verdict => .ok verdict
  | .error e =>
    if e.family = .value then .ok (.refused (masterUnreachable ++ ": unexpected master answer"))
    else .error (.shape e)

/-- The verdict of a reply to a request that is passed on. -/
def Reply.verdict (reply : Reply) : Except Failure Verdict :=
  heard reply.answer >>= fun
    | .ok answer => judged answer
    | .error reason => .ok (.refused reason)

/-- The brokers that a reply tells of, or the reason why it tells of none. -/
def Reply.brokers (reply : Reply) : Except Failure (Except String (List Json.Fields)) :=
  heard reply.answer >>= fun
    | .ok answer => (brokersOf answer).mapError .shape >>= fun brokers => .ok (.ok brokers)
    | .error reason => .ok (.error reason)

/-- The verdict of brokers on whether a topic can be written to. -/
def permissionOf (topic : String) (brokers : List Json.Fields) : Except Failure Verdict :=
  if brokers.isEmpty then .ok (topicUnknown topic)
  else (allAccept brokers).mapError .shape >>= fun accepted => .ok ⟨0, "", accepted, .null⟩

/-- The verdict of a reply on whether a topic can be written to. -/
def Reply.permission (topic : String) (reply : Reply) : Except Failure Verdict :=
  reply.brokers >>= fun
    | .ok brokers => permissionOf topic brokers
    | .error reason => .ok (.refused reason)

/-! ## Asking masters -/

theorem Masters.ask_gives (haddress : m.addressOf (Json.fieldOrNull fields "clusterId") = .ok address)
    (hcarried : canCarry fields = true) :
    Gives (m.ask fields) replies [m.requestTo address fields] (nextReply replies).answer := by
  have hurl : Gives (liftM (m.queryUrl fields) : Exchange String) replies []
      (.ok (m.requestTo address fields).url) := by
    rw [← queryUrl_of_address haddress hcarried]
    exact .lift
  exact hurl.bind ((fetch_gives _).andThen fun _ => .lift)

theorem Masters.ask_lost {e : Failure} (h : m.queryUrl fields = .error e) :
    Gives (m.ask fields) replies [] (.error e) := by
  have hurl : Gives (liftM (m.queryUrl fields) : Exchange String) replies [] (.error e) := by
    rw [← h]
    exact .lift
  exact hurl.bind_error

theorem Masters.verdictOf_gives (answer : Json.Fields) :
    Gives (Masters.verdictOf answer) replies [] (judged answer) := by
  unfold Masters.verdictOf judged
  cases Verdict.ofFields answer with
  | ok verdict => exact .pure
  | error e =>
      dsimp only
      split
      · exact Gives.afterNote .pure
      · exact .throw

/-- A request that is passed on: the master of its cluster is asked once, and its reply tells the verdict. -/
theorem Masters.relay_gives (haddress : m.addressOf (Json.fieldOrNull fields "clusterId") = .ok address)
    (hcarried : canCarry fields = true) :
    Gives (m.relay fields) replies [m.requestTo address fields] (nextReply replies).verdict := by
  refine (ask_gives haddress hcarried).attempt.andThen fun outcome => ?_
  cases outcome with
  | ok answer => exact verdictOf_gives answer
  | error reason => exact .pure

theorem Masters.relay_lost {reason : String}
    (h : m.addressOf (Json.fieldOrNull fields "clusterId") = .error (.master reason)) :
    Gives (m.relay fields) replies [] (.ok (.refused reason)) :=
  (ask_lost (queryUrl_of_error h)).attempt.bind .pure

theorem Masters.relay_balked (h : m.Balks fields) :
    Gives (m.relay fields) replies [] (.error (.shape .unencodable)) :=
  (ask_lost h.queryUrl).attempt.bind_error

/-! ## Looking a topic up -/

variable {topic : String} {cluster : Json}

theorem lookup_gives (haddress : m.addressOf cluster = .ok address)
    (hcarried : canCarry (topicInfoFields topic cluster) = true) :
    Gives (m.ask (topicInfoFields topic cluster)) replies [m.requestTo address (topicInfoFields topic cluster)]
      (nextReply replies).answer := Masters.ask_gives haddress hcarried

theorem lookup_lost {e : Failure} (h : m.addressOf cluster = .error e) (topic : String) :
    Gives (m.ask (topicInfoFields topic cluster)) replies [] (.error e) :=
  Masters.ask_lost (Masters.queryUrl_of_error h)

theorem canWrite_gives (haddress : m.addressOf cluster = .ok address)
    (hcarried : canCarry (topicInfoFields topic cluster) = true) :
    Gives (canWrite m topic cluster) replies [m.requestTo address (topicInfoFields topic cluster)]
      ((nextReply replies).permission topic) := by
  have hlookup : Gives _ replies _ _ := (lookup_gives haddress hcarried).attempt
  rw [Reply.permission, Reply.brokers, bind_assoc]
  refine hlookup.andThen fun outcome => ?_
  cases outcome with
  | error reason => exact .pure
  | ok answer =>
      dsimp only
      rw [bind_assoc]
      refine Gives.liftShape.andThen fun brokers => ?_
      change Gives _ _ [] (permissionOf topic brokers)
      unfold permissionOf
      split
      · exact .pure
      · exact Gives.liftShape.andThen fun accepted => Gives.afterNote .pure

theorem canWrite_lost {reason : String} (h : m.addressOf cluster = .error (.master reason)) :
    Gives (canWrite m topic cluster) replies [] (.ok (.refused reason)) :=
  (lookup_lost h topic).attempt.bind .pure

theorem canWrite_balked (h : m.Balks (topicInfoFields topic cluster)) :
    Gives (canWrite m topic cluster) replies [] (.error (.shape .unencodable)) :=
  (Masters.ask_lost h.queryUrl).attempt.bind_error

/-! ## Cloning -/

namespace Cloning

variable {c : Cloning} {broker : Json.Fields} {target : Json}

/-- No cloned setting stands in for the cluster. -/
theorem cluster_fieldsFor (c : Cloning) (broker : Json.Fields) (target : Json) :
    Json.fieldOrNull (c.fieldsFor (settingsOf broker) target) "clusterId" = c.cluster := by
  have hnone : (settingsOf broker).lookup "clusterId" = none := by
    refine List.lookup_eq_none_iff.mpr fun p hp => ?_
    have hkey := (mem_settingsOf hp).1
    rw [bne_iff_ne]
    rintro heq
    rw [← heq] at hkey
    exact absurd hkey (by decide)
  rw [Json.fieldOrNull, fieldsFor, List.lookup_append, hnone]
  rfl

/-- The reply tells success. -/
def Accepted (reply : Reply) : Prop := ∃ verdict, reply.verdict = .ok verdict ∧ verdict.accepted = true

/-- Requests for targets and how they ended: each is sent once all before it were accepted, and the first that is not
ends them with its own reply. One that cannot carry its fields ends them without a reply. -/
inductive Reached (m : Masters) (address : String) (c : Cloning) (broker : Json.Fields) :
    List Json → List Reply → List Request → Except Failure Verdict → Prop
  | done {replies : List Reply} : Reached m address c broker [] replies [] (.ok .success)
  | next {target : Json} {targets : List Json} {replies : List Reply} {sent : List Request}
      {r : Except Failure Verdict} (hcarried : canCarry (c.fieldsFor (settingsOf broker) target) = true)
      (haccepted : Accepted (nextReply replies))
      (hrest : Reached m address c broker targets (replies.drop 1) sent r) :
      Reached m address c broker (target :: targets) replies
        (m.requestTo address (c.fieldsFor (settingsOf broker) target) :: sent) r
  | stopped {target : Json} {targets : List Json} {replies : List Reply}
      (hcarried : canCarry (c.fieldsFor (settingsOf broker) target) = true) (hrefused : ¬Accepted (nextReply replies)) :
      Reached m address c broker (target :: targets) replies
        [m.requestTo address (c.fieldsFor (settingsOf broker) target)] (nextReply replies).verdict
  | balked {target : Json} {targets : List Json} {replies : List Reply}
      (hcarried : canCarry (c.fieldsFor (settingsOf broker) target) = false) :
      Reached m address c broker (target :: targets) replies [] (.error (.shape .unencodable))

theorem addTargets_gives (haddress : m.addressOf c.cluster = .ok address) (broker : Json.Fields)
    (targets : List Json) (replies : List Reply) :
    ∃ sent r, Gives (c.addTargets m (settingsOf broker) targets) replies sent r ∧
      Reached m address c broker targets replies sent r := by
  induction targets generalizing replies with
  | nil => exact ⟨_, _, .pure, .done⟩
  | cons target targets ih =>
      have hmaster :
          m.addressOf (Json.fieldOrNull (c.fieldsFor (settingsOf broker) target) "clusterId") = .ok address := by
        rw [cluster_fieldsFor]
        exact haddress
      by_cases hcarried : canCarry (c.fieldsFor (settingsOf broker) target) = true
      case neg =>
        have hhalved := Bool.eq_false_iff.mpr hcarried
        exact ⟨_, _, (Masters.relay_balked ⟨⟨address, hmaster⟩, hhalved⟩).bind_error, .balked hhalved⟩
      have hrelay : Gives (m.relay (c.fieldsFor (settingsOf broker) target)) replies
          [m.requestTo address (c.fieldsFor (settingsOf broker) target)] (nextReply replies).verdict :=
        Masters.relay_gives hmaster hcarried
      -- The induction hypothesis is needed only where the reply tells success.
      cases hverdict : (nextReply replies).verdict with
      | error e =>
          rw [hverdict] at hrelay
          refine ⟨_, _, hrelay.bind_error, ?_⟩
          rw [← hverdict]
          refine .stopped hcarried ?_
          rintro ⟨verdict, hok, -⟩
          cases hverdict.symm.trans hok
      | ok verdict =>
          rw [hverdict] at hrelay
          cases haccepted : verdict.accepted with
          | true =>
              obtain ⟨sent, r, hgives, hreached⟩ := ih (replies.drop 1)
              refine ⟨_, r, hrelay.bind ?_, .next hcarried ⟨verdict, hverdict, haccepted⟩ hreached⟩
              rw [if_pos haccepted]
              exact Gives.afterNote hgives
          | false =>
              have hrefused : ¬verdict.accepted = true := by simp [haccepted]
              refine ⟨[_], .ok verdict, hrelay.bind ?_, ?_⟩
              · rw [if_neg hrefused]
                exact Gives.afterNote .pure
              · rw [← hverdict]
                refine .stopped hcarried ?_
                rintro ⟨other, hok, hother⟩
                cases hverdict.symm.trans hok
                exact hrefused hother

theorem run_lost {reason : String} (h : m.addressOf c.cluster = .error (.master reason)) :
    Gives (c.run m) replies [] (.ok (.refused reason)) :=
  (lookup_lost h c.source).attempt.bind .pure

theorem run_balked (h : m.Balks (topicInfoFields c.source c.cluster)) :
    Gives (c.run m) replies [] (.error (.shape .unencodable)) :=
  (Masters.ask_lost h.queryUrl).attempt.bind_error

/-- The end of a cloning whose source has no broker: why it was not told, or that there is none. -/
def unfound (source : String) : Except String (List Json.Fields) → Verdict
  | .error reason => .refused reason
  | .ok _ => topicUnknown source

theorem run_unfound (haddress : m.addressOf c.cluster = .ok address)
    (hcarried : canCarry (topicInfoFields c.source c.cluster) = true)
    (hnone : ∀ broker rest, (nextReply replies).brokers ≠ .ok (.ok (broker :: rest))) :
    Gives (c.run m) replies [m.requestTo address (topicInfoFields c.source c.cluster)]
      ((nextReply replies).brokers >>= fun found => .ok (unfound c.source found)) := by
  have hlookup : Gives _ replies _ _ := (lookup_gives haddress hcarried).attempt
  unfold Reply.brokers at *
  cases hheard : heard (nextReply replies).answer with
  | error e =>
      rw [hheard] at hlookup
      exact hlookup.bind_error
  | ok outcome =>
      rw [hheard] at hlookup hnone
      cases outcome with
      | error reason => exact hlookup.bind .pure
      | ok answer =>
          refine hlookup.bind ?_
          change Gives _ _ [] (((brokersOf answer).mapError Failure.shape >>= fun brokers => .ok (.ok brokers)) >>=
            fun found => .ok (unfound c.source found))
          dsimp only
          cases hbrokers : brokersOf answer with
          | error e => exact .throw
          | ok brokers =>
              cases brokers with
              | nil => exact .pure
              | cons broker rest =>
                  refine absurd ?_ (hnone broker rest)
                  change (brokersOf answer).mapError Failure.shape >>= _ = _
                  rw [hbrokers]
                  rfl

theorem run_found (haddress : m.addressOf c.cluster = .ok address)
    (hcarried : canCarry (topicInfoFields c.source c.cluster) = true) {rest : List Json.Fields} {sent : List Request}
    {r : Except Failure Verdict} (hfound : (nextReply replies).brokers = .ok (.ok (broker :: rest)))
    (hadd : Gives (c.addTargets m (settingsOf broker) c.targets) (replies.drop 1) sent r) :
    Gives (c.run m) replies (m.requestTo address (topicInfoFields c.source c.cluster) :: sent) r := by
  have hlookup : Gives _ replies _ _ := (lookup_gives haddress hcarried).attempt
  unfold Reply.brokers at hfound
  obtain ⟨outcome, hheard, houtcome⟩ := Except.bind_eq_ok.mp hfound
  rw [hheard] at hlookup
  cases outcome with
  | error reason => cases houtcome
  | ok answer =>
      obtain ⟨brokers, hbrokers, hcons⟩ := Except.bind_eq_ok.mp houtcome
      cases hcons
      refine hlookup.bind ?_
      dsimp only
      rw [Except.mapError_eq_ok.mp hbrokers]
      exact hadd

end Cloning

/-! ## Calls -/

theorem dispatch_gives {known : Method} {body : Option String} {request : Json.Fields} {sent : List Request}
    {r : Except Failure Verdict} (hbody : Json.parse (body.getD "") = .ok (.object request))
    (h : Gives (known.run m request) replies sent r) :
    Gives (dispatch m (some known.name) body) replies sent r := by
  intro wire hwire
  rw [dispatch_served hbody]
  exact h (wire.received (some known.name) body) hwire

end SinkKeeper.Topic
