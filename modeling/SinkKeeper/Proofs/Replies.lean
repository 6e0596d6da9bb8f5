import SinkKeeper.Proofs.Forwarding

/-!
# Any reply

A reply is read for the verdict of a master, for the brokers of a topic, or for whether a topic can be written to.
Almost every reply that cannot be read in its way is told as a refusal. The few that are not are named here, one by
one. Apart from them, a call is kept from its verdict only by fields that a request cannot carry: its own, or those
that a reply has for the next request.
-/

namespace SinkKeeper

/-- The value counts as present, and is of a kind that has no items. -/
def Json.Itemless (kind : Json.Kind) (j : Json) : Prop :=
  j.isTruthy = true ∧ j.kind = kind ∧ kind ∈ [Json.Kind.bool, .whole, .real]

theorem Json.itemsOrNone_eq_error {j : Json} {e : ShapeError} :
    j.itemsOrNone = .error e ↔ ∃ kind, e = .noItems kind ∧ j.Itemless kind := by
  unfold Json.itemsOrNone
  constructor
  · intro h
    split at h
    next htruthy =>
      cases j with
      | null => cases htruthy
      | string s | array items | object fields => cases h
      | bool b =>
          cases h
          exact ⟨_, rfl, htruthy, rfl, by simp [Json.kind]⟩
      | number n =>
          cases n <;> cases h <;> exact ⟨_, rfl, htruthy, rfl, by simp [Json.kind]⟩
    next => cases h
  · rintro ⟨kind, rfl, htruthy, rfl, hkind⟩
    rw [if_pos htruthy]
    cases j with
    | bool b => rfl
    | number n => cases n <;> rfl
    | _ => exact absurd hkind (by simp [Json.kind])

/-- Reading a whole number fails by a type or by a value, except that infinity has a failure of its own. -/
theorem Json.toWhole_fails (j : Json) :
    Fails (fun e => (e.family = .type ∨ e.family = .value) ∨
      e = .infiniteNumber ∧ ∃ negative, j = .number (.real (.infinite negative))) j.toWhole := by
  cases j with
  | null | array items | object fields => exact .error (.inl (.inl rfl))
  | bool b => exact .ok
  | string s =>
      rw [Json.toWhole, Json.wholeOfText]
      split
      · exact .ok
      · exact .error (.inl (.inr rfl))
      · exact .error (.inl (.inr rfl))
  | number n =>
      cases n with
      | whole n => exact .ok
      | real x =>
          cases x with
          | finite negative mantissa exponent => exact .ok
          | nan => exact .error (.inl (.inr rfl))
          | infinite negative => exact .error (.inr ⟨rfl, negative, rfl⟩)

namespace Topic

variable {m : Masters} {request fields answer broker : Json.Fields} {replies : List Reply} {reply : Reply}
  {topic : String} {e : Failure} {verdict : Verdict}

/-! ## Uses -/

/-- What a reply is read for. -/
inductive Use
  | verdict
  | brokers
  | permission
deriving DecidableEq, Repr

/-- What the replies of an operation are read for, in their order. -/
def Method.use : Method → Nat → Use
  | .queryCanWrite, _ => .permission
  | .clone, 0 => .brokers
  | _, _ => .verdict

/-- A page, or the failure of a request. -/
def Reply.OfRequest : Reply → Prop
  | .page .. => True
  | .failed f => f.kind.isRequest = true

/-- The answer has a value without items where items are read. -/
inductive Unlisted (kind : Json.Kind) (answer : Json.Fields) : Prop
  | data (h : (Json.fieldOrNull answer "data").Itemless kind)
  | topicInfo {topics : List Json} {before after : List Json.Fields} {topic : Json.Fields}
      (hdata : (Json.fieldOrNull answer "data").itemsOrNone = .ok topics)
      (hobjects : objectsOf topics = before ++ topic :: after)
      (hbefore : ∀ other ∈ before, ∀ kind, ¬(Json.fieldOrNull other "topicInfo").Itemless kind)
      (h : (Json.fieldOrNull topic "topicInfo").Itemless kind)

/-! ## Failing readings -/

theorem heard_eq_ok {α : Type} {x : Except Failure α} {a : α} : heard x = .ok (.ok a) ↔ x = .ok a := by
  cases x with
  | ok b => simp [heard]
  | error e => cases e <;> simp [heard]

theorem heard_eq_error {α : Type} {x : Except Failure α} :
    heard x = .error e ↔ x = .error e ∧ ∀ reason, e ≠ .master reason := by
  cases x with
  | ok b => simp [heard]
  | error e' => cases e' <;> simp +contextual [heard, eq_comm]

theorem codeOf_eq_ok {code : Int} : Verdict.codeOf answer = .ok code ↔
    ((answer.lookup "errCode").getD (.int (-1))).toWhole = .ok code := by
  unfold Verdict.codeOf
  dsimp only
  split <;> simp [*]

/-- No code but one without end escapes being told. -/
theorem codeOf_eq_error {error : ShapeError} (h : Verdict.codeOf answer = .error error) : error.family = .value ∨
    error = .infiniteNumber ∧ ∃ negative, answer.lookup "errCode" = some (.number (.real (.infinite negative))) := by
  unfold Verdict.codeOf at h
  dsimp only at h
  split at h
  · cases h
  next reason hwhole =>
  cases h
  rcases Json.toWhole_fails _ reason hwhole with htold | ⟨rfl, negative, hendless⟩
  · rw [if_pos htold]
    exact .inl rfl
  · rw [if_neg (by decide)]
    cases hlookup : answer.lookup "errCode" with
    | none =>
        rw [hlookup] at hendless
        cases hendless
    | some code =>
        rw [hlookup] at hendless
        exact .inr ⟨rfl, negative, congrArg some hendless⟩

theorem mem_objectsOf {items : List Json} : broker ∈ objectsOf items ↔ .object broker ∈ items := by
  rw [objectsOf, List.mem_filterMap]
  constructor
  · rintro ⟨item, hitem, hobject⟩
    cases item with
    | object fields =>
        cases hobject
        exact hitem
    | _ => cases hobject
  · exact fun h => ⟨_, h, rfl⟩

theorem brokersOf_of_lists {topics : List Json} (hdata : (Json.fieldOrNull answer "data").itemsOrNone = .ok topics)
    (h : ∀ topic ∈ objectsOf topics, ∃ items, (Json.fieldOrNull topic "topicInfo").itemsOrNone = .ok items) :
    ∃ brokers, brokersOf answer = .ok brokers := by
  obtain ⟨lists, hlists⟩ := Except.exists_mapM_ok h
  exact ⟨_, Except.bind_eq_ok.mpr ⟨topics, hdata, Except.bind_eq_ok.mpr ⟨lists, hlists, rfl⟩⟩⟩

theorem brokersOf_eq_error {error : ShapeError} :
    brokersOf answer = .error error ↔ ∃ kind, error = .noItems kind ∧ Unlisted kind answer := by
  rw [brokersOf, Except.bind_eq_error, Json.itemsOrNone_eq_error]
  constructor
  · rintro (⟨kind, rfl, hdata⟩ | ⟨topics, hdata, hlists⟩)
    · exact ⟨kind, rfl, .data hdata⟩
    · rcases Except.bind_eq_error.mp hlists with hmap | ⟨_, -, hpure⟩
      · obtain ⟨before, topic, after, hobjects, hbefore, htopic⟩ := Except.mapM_eq_error.mp hmap
        obtain ⟨kind, rfl, hitemless⟩ := Json.itemsOrNone_eq_error.mp htopic
        refine ⟨kind, rfl, .topicInfo hdata hobjects (fun other hmem kind hother => ?_) hitemless⟩
        obtain ⟨items, hitems⟩ := hbefore other hmem
        cases hitems.symm.trans (Json.itemsOrNone_eq_error.mpr ⟨kind, rfl, hother⟩)
      · cases hpure
  · rintro ⟨kind, rfl, hdata | ⟨hdata, hobjects, hbefore, hitemless⟩⟩
    · exact .inl ⟨kind, rfl, hdata⟩
    · refine .inr ⟨_, hdata, Except.bind_eq_error.mpr (.inl (Except.mapM_eq_error.mpr
        ⟨_, _, _, hobjects, fun other hmem => ?_, Json.itemsOrNone_eq_error.mpr ⟨kind, rfl, hitemless⟩⟩))⟩
      cases hitems : (Json.fieldOrNull other "topicInfo").itemsOrNone with
      | ok items => exact ⟨items, rfl⟩
      | error error =>
          obtain ⟨kind, -, hother⟩ := Json.itemsOrNone_eq_error.mp hitems
          exact absurd hother (hbefore other hmem kind)

theorem acceptsPublish_eq_error {error : ShapeError} :
    acceptsPublish broker = .error error ↔ ∃ kind, error = .noOperation kind "get" ∧ RunsAs kind broker := by
  constructor
  · exact acceptsPublish_fails broker error
  · rintro ⟨kind, rfl, htruthy, hkind, hobject⟩
    unfold acceptsPublish
    dsimp only
    rw [if_pos htruthy]
    refine Except.bind_eq_error.mpr (.inl ?_)
    cases hrunning : Json.fieldOrNull broker "runInfo" with
    | object fields =>
        rw [hrunning] at hkind
        exact absurd hkind.symm hobject
    | _ =>
        rw [hrunning] at hkind
        rw [← hkind]
        rfl

theorem allAccept_eq_ok {brokers : List Json.Fields} :
    allAccept brokers = .ok true ↔ ∀ broker ∈ brokers, acceptsPublish broker = .ok true := by
  induction brokers with
  | nil => simp [allAccept]
  | cons broker brokers ih =>
      rw [allAccept, Except.bind_eq_ok, List.forall_mem_cons, ← ih]
      constructor
      · rintro ⟨accepts, hfirst, hrest⟩
        cases accepts with
        | true => exact ⟨hfirst, hrest⟩
        | false => cases hrest
      · rintro ⟨hfirst, hrest⟩
        exact ⟨true, hfirst, hrest⟩

/-- Brokers are looked at up to the first that takes no messages or is puzzling. -/
theorem allAccept_eq_error {brokers : List Json.Fields} {error : ShapeError} :
    allAccept brokers = .error error ↔ ∃ before broker after, brokers = before ++ broker :: after ∧
      (∀ other ∈ before, acceptsPublish other = .ok true) ∧ acceptsPublish broker = .error error := by
  induction brokers with
  | nil => simp [allAccept]
  | cons first brokers ih =>
      rw [allAccept, Except.bind_eq_error]
      constructor
      · rintro (hfirst | ⟨accepts, hfirst, hrest⟩)
        · exact ⟨[], first, brokers, rfl, fun _ h => absurd h List.not_mem_nil, hfirst⟩
        · cases accepts with
          | false => cases hrest
          | true =>
              obtain ⟨before, broker, after, rfl, hbefore, hbroker⟩ := ih.mp hrest
              exact ⟨first :: before, broker, after, rfl, List.forall_mem_cons.mpr ⟨hfirst, hbefore⟩, hbroker⟩
      · rintro ⟨before, broker, after, hsplit, hbefore, hbroker⟩
        cases before with
        | nil =>
            cases hsplit
            exact .inl hbroker
        | cons other before =>
            cases hsplit
            obtain ⟨hfirst, hothers⟩ := List.forall_mem_cons.mp hbefore
            exact .inr ⟨true, hfirst, ih.mpr ⟨before, broker, after, rfl, hothers, hbroker⟩⟩

theorem permissionOf_eq_error {brokers : List Json.Fields} : permissionOf topic brokers = .error e ↔
    ∃ before broker after kind, brokers = before ++ broker :: after ∧
      (∀ other ∈ before, acceptsPublish other = .ok true) ∧ RunsAs kind broker ∧
        e = .shape (.noOperation kind "get") := by
  unfold permissionOf
  constructor
  · intro h
    split at h
    · cases h
    · rcases Except.bind_eq_error.mp h with hlost | ⟨_, -, hpure⟩
      · obtain ⟨error, hall, rfl⟩ := Except.mapError_eq_error.mp hlost
        obtain ⟨before, broker, after, hsplit, hbefore, hbroker⟩ := allAccept_eq_error.mp hall
        obtain ⟨kind, rfl, hruns⟩ := acceptsPublish_eq_error.mp hbroker
        exact ⟨before, broker, after, kind, hsplit, hbefore, hruns, rfl⟩
      · cases hpure
  · rintro ⟨before, broker, after, kind, rfl, hbefore, hruns, rfl⟩
    rw [if_neg (by simp)]
    exact Except.bind_eq_error.mpr (.inl (Except.mapError_eq_error.mpr ⟨_, allAccept_eq_error.mpr
      ⟨before, broker, after, rfl, hbefore, acceptsPublish_eq_error.mpr ⟨kind, rfl, hruns⟩⟩, rfl⟩))

section Uses

variable [Runtime]

/-! ## Replies for their uses -/

/-- The reply keeps a call from its verdict: a text that is not read to its end, a code without end, a value without
items for a list of topics or of brokers, or a broker that tells how it runs by a value without fields. -/
inductive Baffles : Use → Reply → Failure → Prop
  | unread {use : Use} {text : String} {status : Int} {error : Json.ParseError}
      (h : Json.parse text = .error error) (hunread : error.isSyntax = false) :
      Baffles use (.page text status) (.unparsed error)
  | endless {reply : Reply} {answer : Json.Fields} {negative : Bool} (h : reply.Shows answer)
      (hcode : answer.lookup "errCode" = some (.number (.real (.infinite negative)))) :
      Baffles .verdict reply (.shape .infiniteNumber)
  | unlisted {use : Use} {reply : Reply} {answer : Json.Fields} {kind : Json.Kind} (huse : use ≠ .verdict)
      (h : reply.Shows answer) (hkind : Unlisted kind answer) : Baffles use reply (.shape (.noItems kind))
  | puzzling {reply : Reply} {answer broker : Json.Fields} {before after : List Json.Fields} {kind : Json.Kind}
      (h : reply.Shows answer) (hbrokers : brokersOf answer = .ok (before ++ broker :: after))
      (hbefore : ∀ other ∈ before, acceptsPublish other = .ok true) (hruns : RunsAs kind broker) :
      Baffles .permission reply (.shape (.noOperation kind "get"))

/-- The reply has what it is read for, and it is good: a code that stands for zero, a broker, brokers that all take
messages. -/
inductive Serves : Use → Reply → Prop
  | verdict {reply : Reply} {answer : Json.Fields} {code : Json} (h : reply.Shows answer)
      (hcode : answer.lookup "errCode" = some code) (hzero : code.toWhole = .ok 0) : Serves .verdict reply
  | brokers {reply : Reply} {answer broker : Json.Fields} {others : List Json.Fields} (h : reply.Shows answer)
      (hbrokers : brokersOf answer = .ok (broker :: others)) : Serves .brokers reply
  | permission {reply : Reply} {answer broker : Json.Fields} {others : List Json.Fields} (h : reply.Shows answer)
      (hbrokers : brokersOf answer = .ok (broker :: others))
      (haccept : ∀ each ∈ broker :: others, acceptsPublish each = .ok true) : Serves .permission reply

/-! ## Answers -/

theorem heard_answer_eq_ok : heard reply.answer = .ok (.ok answer) ↔ reply.Shows answer := by
  rw [heard_eq_ok]
  constructor
  · intro h
    obtain ⟨text, hcontent, hanswer⟩ := Except.bind_eq_ok.mp h
    cases reply with
    | failed f =>
        unfold Reply.content at hcontent
        dsimp only at hcontent
        split at hcontent <;> cases hcontent
    | page page status =>
        cases hcontent
        refine ⟨_, status, rfl, ?_⟩
        unfold Masters.answerOf at hanswer
        split at hanswer
        · cases hanswer
          assumption
        · cases hanswer
        · split at hanswer <;> cases hanswer
  · rintro ⟨text, status, rfl, hparse⟩
    exact Except.bind_eq_ok.mpr ⟨text, rfl, by simp only [Masters.answerOf, hparse]⟩

theorem heard_answer_eq_error (hreply : reply.OfRequest) :
    heard reply.answer = .error e ↔ ∃ text status error, reply = .page text status ∧
      Json.parse text = .error error ∧ error.isSyntax = false ∧ e = .unparsed error := by
  rw [heard_eq_error]
  cases reply with
  | failed f =>
      have hrequest : f.kind.isRequest = true := hreply
      simp only [Reply.answer, Reply.content, if_pos hrequest]
      constructor
      · rintro ⟨hmaster, hnone⟩
        cases hmaster
        exact absurd rfl (hnone _)
      · rintro ⟨_, _, _, hpage, -⟩
        cases hpage
  | page page status =>
      constructor
      · rintro ⟨hanswer, hnone⟩
        have hread : Masters.answerOf page = .error e := hanswer
        unfold Masters.answerOf at hread
        split at hread
        · cases hread
        · cases hread
          exact absurd rfl (hnone _)
        · next error hparse =>
          split at hread
          · cases hread
            exact absurd rfl (hnone _)
          · next hunread =>
            cases hread
            exact ⟨page, status, error, rfl, hparse, Bool.eq_false_iff.mpr hunread, rfl⟩
      · rintro ⟨_, _, error, hpage, hparse, hunread, rfl⟩
        cases hpage
        refine ⟨?_, fun _ h => by cases h⟩
        change Masters.answerOf page = _
        simp only [Masters.answerOf, hparse, hunread]
        rfl

/-! ## Verdicts -/

theorem judged_eq_error : judged answer = .error e ↔
    e = .shape .infiniteNumber ∧ ∃ negative, answer.lookup "errCode" = some (.number (.real (.infinite negative))) := by
  constructor
  · intro h
    unfold judged at h
    split at h
    · cases h
    next error hfields =>
    have hcode : Verdict.codeOf answer = .error error := by
      rcases Except.bind_eq_error.mp hfields with hcode | ⟨_, -, hpure⟩
      · exact hcode
      · cases hpure
    split at h
    · cases h
    next hfamily =>
    cases h
    rcases codeOf_eq_error hcode with hvalue | ⟨rfl, hendless⟩
    · exact absurd hvalue hfamily
    · exact ⟨rfl, hendless⟩
  · rintro ⟨rfl, negative, hlookup⟩
    have hcode : Verdict.codeOf answer = .error .infiniteNumber := by
      simp [Verdict.codeOf, hlookup, Json.toWhole, Json.wholeOfDouble, ShapeError.family]
    have hfields : Verdict.ofFields answer = .error .infiniteNumber := Except.bind_eq_error.mpr (.inl hcode)
    simp [judged, hfields, ShapeError.family]

theorem judged_accepted (h : judged answer = .ok verdict) (haccepted : verdict.accepted = true) :
    ∃ code, answer.lookup "errCode" = some code ∧ code.toWhole = .ok 0 := by
  unfold judged at h
  split at h
  next other hfields =>
    cases h
    obtain ⟨number, hcode, hverdict⟩ := Except.bind_eq_ok.mp hfields
    cases hverdict
    have hzero : number = 0 := of_decide_eq_true haccepted
    subst hzero
    have hwhole := codeOf_eq_ok.mp hcode
    cases hlookup : answer.lookup "errCode" with
    | none =>
        rw [hlookup] at hwhole
        cases hwhole
    | some code =>
        rw [hlookup] at hwhole
        exact ⟨code, rfl, hwhole⟩
  next =>
    split at h
    · cases h
      cases haccepted
    · cases h

theorem verdict_eq_error (hreply : reply.OfRequest) : reply.verdict = .error e ↔ Baffles .verdict reply e := by
  rw [Reply.verdict, Except.bind_eq_error, heard_answer_eq_error hreply]
  constructor
  · rintro (⟨text, status, error, rfl, hparse, hunread, rfl⟩ | ⟨outcome, hheard, houtcome⟩)
    · exact .unread hparse hunread
    · cases outcome with
      | error reason => cases houtcome
      | ok answer =>
          obtain ⟨rfl, negative, hcode⟩ := judged_eq_error.mp houtcome
          exact .endless (heard_answer_eq_ok.mp hheard) hcode
  · intro h
    cases h with
    | unread hparse hunread => exact .inl ⟨_, _, _, rfl, hparse, hunread, rfl⟩
    | endless hshows hcode =>
        exact .inr ⟨_, heard_answer_eq_ok.mpr hshows, judged_eq_error.mpr ⟨rfl, _, hcode⟩⟩
    | unlisted huse => exact absurd rfl huse

theorem verdict_serves (h : reply.verdict = .ok verdict) (haccepted : verdict.accepted = true) :
    Serves .verdict reply := by
  obtain ⟨outcome, hheard, houtcome⟩ := Except.bind_eq_ok.mp h
  cases outcome with
  | error reason =>
      cases houtcome
      cases haccepted
  | ok answer =>
      obtain ⟨code, hcode, hzero⟩ := judged_accepted houtcome haccepted
      exact .verdict (heard_answer_eq_ok.mp hheard) hcode hzero

/-- A reply that serves as a verdict tells success. -/
theorem accepted_of_serves (h : Serves .verdict reply) : Cloning.Accepted reply := by
  cases h with
  | verdict hshows hlookup hzero =>
      have hcode : Verdict.codeOf _ = .ok 0 := codeOf_eq_ok.mpr (by rw [hlookup]; exact hzero)
      obtain ⟨verdict, hfields, haccepted⟩ : ∃ verdict, Verdict.ofFields _ = .ok verdict ∧ verdict.accepted = true :=
        ⟨_, Except.bind_eq_ok.mpr ⟨0, hcode, rfl⟩, rfl⟩
      refine ⟨verdict, Except.bind_eq_ok.mpr ⟨_, heard_answer_eq_ok.mpr hshows, ?_⟩, haccepted⟩
      simp only [judged, hfields]

/-! ## Brokers -/

/-- Whoever reads brokers fails if they cannot be read, whatever is made of them. -/
theorem brokers_baffles (hreply : reply.OfRequest) {use : Use} (huse : use ≠ .verdict)
    (h : reply.brokers = .error e) : Baffles use reply e := by
  rcases Except.bind_eq_error.mp h with hheard | ⟨outcome, hheard, houtcome⟩
  · obtain ⟨text, status, error, rfl, hparse, hunread, rfl⟩ := (heard_answer_eq_error hreply).mp hheard
    exact .unread hparse hunread
  · cases outcome with
    | error reason => cases houtcome
    | ok answer =>
        rcases Except.bind_eq_error.mp houtcome with hlost | ⟨_, -, hpure⟩
        · obtain ⟨error, hbrokers, rfl⟩ := Except.mapError_eq_error.mp hlost
          obtain ⟨kind, rfl, hunlisted⟩ := brokersOf_eq_error.mp hbrokers
          exact .unlisted huse (heard_answer_eq_ok.mp hheard) hunlisted
        · cases hpure

theorem brokers_of_unread {text : String} {status : Int} {error : Json.ParseError}
    (h : Json.parse text = .error error) (hunread : error.isSyntax = false) :
    (Reply.page text status).brokers = .error (.unparsed error) := by
  have hpage : (Reply.page text status).OfRequest := trivial
  exact Except.bind_eq_error.mpr
    (.inl ((heard_answer_eq_error hpage).mpr ⟨text, status, error, rfl, h, hunread, rfl⟩))

theorem brokers_of_unlisted {kind : Json.Kind} (h : reply.Shows answer) (hkind : Unlisted kind answer) :
    reply.brokers = .error (.shape (.noItems kind)) := by
  refine Except.bind_eq_error.mpr (.inr ⟨_, heard_answer_eq_ok.mpr h, Except.bind_eq_error.mpr (.inl ?_)⟩)
  exact Except.mapError_eq_error.mpr ⟨_, brokersOf_eq_error.mpr ⟨kind, rfl, hkind⟩, rfl⟩

theorem brokers_eq_error (hreply : reply.OfRequest) : reply.brokers = .error e ↔ Baffles .brokers reply e := by
  refine ⟨brokers_baffles hreply (by decide), fun h => ?_⟩
  cases h with
  | unread hparse hunread => exact brokers_of_unread hparse hunread
  | unlisted _ hshows hunlisted => exact brokers_of_unlisted hshows hunlisted

theorem brokers_eq_ok {brokers : List Json.Fields} :
    reply.brokers = .ok (.ok brokers) ↔ ∃ answer, reply.Shows answer ∧ brokersOf answer = .ok brokers := by
  rw [Reply.brokers, Except.bind_eq_ok]
  constructor
  · rintro ⟨outcome, hheard, houtcome⟩
    cases outcome with
    | error reason => cases houtcome
    | ok answer =>
        obtain ⟨found, hfound, hpure⟩ := Except.bind_eq_ok.mp houtcome
        cases hpure
        exact ⟨answer, heard_answer_eq_ok.mp hheard, Except.mapError_eq_ok.mp hfound⟩
  · rintro ⟨answer, hshows, hbrokers⟩
    exact ⟨_, heard_answer_eq_ok.mpr hshows,
      Except.bind_eq_ok.mpr ⟨brokers, Except.mapError_eq_ok.mpr hbrokers, rfl⟩⟩

/-! ## Permissions -/

theorem permission_eq_error (hreply : reply.OfRequest) :
    reply.permission topic = .error e ↔ Baffles .permission reply e := by
  rw [Reply.permission, Except.bind_eq_error]
  constructor
  · rintro (hbrokers | ⟨found, hfound, hpermission⟩)
    · exact brokers_baffles hreply (by decide) hbrokers
    · cases found with
      | error reason => cases hpermission
      | ok brokers =>
          obtain ⟨answer, hshows, hbrokers⟩ := brokers_eq_ok.mp hfound
          obtain ⟨before, broker, after, kind, rfl, hbefore, hruns, rfl⟩ := permissionOf_eq_error.mp hpermission
          exact .puzzling hshows hbrokers hbefore hruns
  · intro h
    cases h with
    | unread hparse hunread => exact .inl (brokers_of_unread hparse hunread)
    | unlisted _ hshows hunlisted => exact .inl (brokers_of_unlisted hshows hunlisted)
    | puzzling hshows hbrokers hbefore hruns =>
        exact .inr ⟨_, brokers_eq_ok.mpr ⟨_, hshows, hbrokers⟩,
          permissionOf_eq_error.mpr ⟨_, _, _, _, rfl, hbefore, hruns, rfl⟩⟩

theorem permission_serves (h : reply.permission topic = .ok verdict) (haccepted : verdict.accepted = true) :
    Serves .permission reply := by
  obtain ⟨found, hfound, hpermission⟩ := Except.bind_eq_ok.mp h
  cases found with
  | error reason =>
      cases hpermission
      cases haccepted
  | ok brokers =>
      obtain ⟨answer, hshows, hbrokers⟩ := brokers_eq_ok.mp hfound
      cases brokers with
      | nil =>
          cases hpermission
          cases haccepted
      | cons broker others =>
          obtain ⟨accepts, hall, hpure⟩ := Except.bind_eq_ok.mp hpermission
          cases hpure
          cases haccepted
          exact .permission hshows hbrokers (allAccept_eq_ok.mp (Except.mapError_eq_ok.mp hall))

/-! ## Requests of a call -/

/-- The fields that a clone asks for in turn: the source, then each target with the settings of the first broker. -/
inductive Cloning.Asks (c : Cloning) (replies : List Reply) : Nat → Json.Fields → Prop
  | source : Asks c replies 0 (topicInfoFields c.source c.cluster)
  | target {i : Nat} {target : Json} {answer broker : Json.Fields} {others : List Json.Fields}
      (h : (nextReply replies).Shows answer) (hbrokers : brokersOf answer = .ok (broker :: others))
      (htarget : c.targets[i]? = some target) : Asks c replies (i + 1) (c.fieldsFor (settingsOf broker) target)

/-- The fields that an operation asks for in turn. -/
inductive Method.Asks (request : Json.Fields) (replies : List Reply) : Method → Nat → Json.Fields → Prop
  | passed {known : Method} (hknown : known ∈ passedOn) : Asks request replies known 0 request
  | control : Asks request replies .authControl 0 (authControlFields request)
  | lookup {topic : String} (htopic : Json.fieldOrNull request "topicName" = .string topic)
      (hnamed : Text.isAllBlank topic = false) (hcluster : (Json.fieldOrNull request "clusterId").isNull = false) :
      Asks request replies .queryCanWrite 0
        (topicInfoFields (Text.strip topic) (Json.fieldOrNull request "clusterId"))
  | cloned {c : Cloning} {i : Nat} {fields : Json.Fields} (hrequest : Cloning.ofRequest? request = some c)
      (h : c.Asks replies i fields) : Asks request replies .clone i fields

/-! ## Calls -/

/-- Replies were taken for their uses, and work ended as told: it went on as long as they served; it failed just if
the last one is baffling, or if all of them served and the next request cannot carry its fields; and it succeeded only
if the last one serves as well. -/
structure Heeds (m : Masters) (asks : Nat → Json.Fields → Prop) (use : Nat → Use) (replies : List Reply) (count : Nat)
    (r : Except Failure Verdict) : Prop where
  before : ∀ i, i + 1 < count → Serves (use i) (nextReply (replies.drop i))
  raises : ∀ e, r = .error e ↔
    (∃ last, last + 1 = count ∧ Baffles (use last) (nextReply (replies.drop last)) e) ∨
      e = .shape .unencodable ∧ (∀ i < count, Serves (use i) (nextReply (replies.drop i))) ∧
        ∃ fields, asks count fields ∧ m.Balks fields
  accepts : ∀ verdict, r = .ok verdict → verdict.accepted = true →
    ∀ last, last + 1 = count → Serves (use last) (nextReply (replies.drop last))

namespace Heeds

variable {asks : Nat → Json.Fields → Prop} {use : Nat → Use} {r : Except Failure Verdict}

theorem congr {others : Nat → Json.Fields → Prop} {count : Nat} (h : Heeds m asks use replies count r)
    (hasks : ∀ i fields, asks i fields ↔ others i fields) : Heeds m others use replies count r := by
  have hsame : asks = others := funext fun i => funext fun fields => propext (hasks i fields)
  rwa [← hsame]

/-- Work that takes no reply, and is not kept from its verdict. -/
theorem none (hcarried : ∀ fields, asks 0 fields → ¬m.Balks fields) : Heeds m asks use replies 0 (.ok verdict) where
  before i hi := absurd hi (Nat.not_lt_zero _)
  raises e := by
    refine ⟨fun h => (by cases h), ?_⟩
    rintro (⟨_, hlast, _⟩ | ⟨-, -, fields, hasks, hbalks⟩)
    · exact absurd hlast (Nat.succ_ne_zero _)
    · exact absurd hbalks (hcarried fields hasks)
  accepts _ _ _ _ hlast := absurd hlast (Nat.succ_ne_zero _)

/-- Work that ends at a request that cannot carry its fields. -/
theorem stuck (hasks : asks 0 fields) (hbalks : m.Balks fields) :
    Heeds m asks use replies 0 (.error (.shape .unencodable)) where
  before i hi := absurd hi (Nat.not_lt_zero _)
  raises e := by
    constructor
    · intro h
      cases h
      exact .inr ⟨rfl, fun i hi => absurd hi (Nat.not_lt_zero i), fields, hasks, hbalks⟩
    · rintro (⟨_, hlast, _⟩ | ⟨rfl, -⟩)
      · exact absurd hlast (Nat.succ_ne_zero _)
      · rfl
  accepts _ hr := by cases hr

/-- Work that ends with its first reply: one that serves is followed by no request, or by one that is sent. -/
theorem one (hraises : ∀ e, r = .error e ↔ Baffles (use 0) (nextReply replies) e)
    (haccepts : ∀ verdict, r = .ok verdict → verdict.accepted = true → Serves (use 0) (nextReply replies))
    (hcarried : Serves (use 0) (nextReply replies) → ∀ fields, asks 1 fields → ¬m.Balks fields) :
    Heeds m asks use replies 1 r where
  before i hi := absurd (Nat.succ_lt_succ_iff.mp hi) (Nat.not_lt_zero i)
  raises e := by
    rw [hraises]
    constructor
    · exact fun h => .inl ⟨0, rfl, h⟩
    · rintro (⟨last, hlast, h⟩ | ⟨-, hserves, fields, hasks, hbalks⟩)
      · cases Nat.succ.inj hlast
        exact h
      · exact absurd hbalks (hcarried (hserves 0 Nat.one_pos) fields hasks)
  accepts verdict hr haccepted last hlast := by
    cases Nat.succ.inj hlast
    exact haccepts verdict hr haccepted

/-- A reply that serves lets the work go on with the next ones. -/
theorem next {count : Nat} (hserves : Serves (use 0) (nextReply replies))
    (hplain : ∀ e, ¬Baffles (use 0) (nextReply replies) e)
    (h : Heeds m (fun i => asks (i + 1)) (fun i => use (i + 1)) (replies.drop 1) count r) :
    Heeds m asks use replies (count + 1) r := by
  have hshift : ∀ i, nextReply ((replies.drop 1).drop i) = nextReply (replies.drop (i + 1)) := fun i => by
    rw [List.drop_drop, Nat.add_comm]
  have hall : (∀ i < count + 1, Serves (use i) (nextReply (replies.drop i))) ↔
      ∀ i < count, Serves (use (i + 1)) (nextReply ((replies.drop 1).drop i)) := by
    refine ⟨fun hfirst i hi => ?_, fun hrest i hi => ?_⟩
    · rw [hshift]
      exact hfirst (i + 1) (Nat.succ_lt_succ hi)
    · cases i with
      | zero => exact hserves
      | succ i =>
          rw [← hshift]
          exact hrest i (Nat.succ_lt_succ_iff.mp hi)
  refine ⟨fun i hi => ?_, fun e => ⟨fun hr => ?_, ?_⟩, fun verdict hr haccepted last hlast => ?_⟩
  · cases i with
    | zero => exact hserves
    | succ i =>
        rw [← hshift]
        exact h.before i (Nat.succ_lt_succ_iff.mp hi)
  · rcases (h.raises e).mp hr with ⟨last, hlast, hbaffles⟩ | ⟨rfl, hrest, hnext⟩
    · rw [hshift] at hbaffles
      exact .inl ⟨last + 1, congrArg Nat.succ hlast, hbaffles⟩
    · exact .inr ⟨rfl, hall.mpr hrest, hnext⟩
  · rintro (⟨last, hlast, hbaffles⟩ | ⟨rfl, hfirst, hnext⟩)
    · cases last with
      | zero => exact absurd hbaffles (hplain e)
      | succ last =>
          rw [← hshift] at hbaffles
          exact (h.raises e).mpr (.inl ⟨last, Nat.succ.inj hlast, hbaffles⟩)
    · exact (h.raises _).mpr (.inr ⟨rfl, hall.mp hfirst, hnext⟩)
  · cases last with
    | zero => exact hserves
    | succ last =>
        rw [← hshift]
        exact h.accepts verdict hr haccepted last (Nat.succ.inj hlast)

end Heeds

/-- Fields that go to a cluster without a master are in no request. -/
theorem Masters.not_balks {reason : String}
    (h : m.addressOf (Json.fieldOrNull fields "clusterId") = .error (.master reason)) : ¬m.Balks fields := by
  rintro ⟨⟨address, haddress⟩, -⟩
  cases h.symm.trans haddress

/-- Work asks once, for the fields. -/
def AsksOnce (asks : Nat → Json.Fields → Prop) (fields : Json.Fields) : Prop :=
  ∀ i other, asks i other ↔ i = 0 ∧ other = fields

variable {asks : Nat → Json.Fields → Prop} {use : Nat → Use}

/-- Work that sends its only request heeds the reply, whether or not there is a master and it can carry the fields. -/
theorem AsksOnce.heeds {work : Exchange Verdict} {r : Except Failure Verdict} (hasks : AsksOnce asks fields)
    (hgives : ∀ address, m.addressOf (Json.fieldOrNull fields "clusterId") = .ok address → canCarry fields = true →
      Exchange.Gives work replies [m.requestTo address fields] r)
    (hlost : ∀ reason, m.addressOf (Json.fieldOrNull fields "clusterId") = .error (.master reason) →
      ∃ verdict, Exchange.Gives work replies [] (.ok verdict))
    (hbalked : m.Balks fields → Exchange.Gives work replies [] (.error (.shape .unencodable)))
    (hraises : ∀ e, r = .error e ↔ Baffles (use 0) (nextReply replies) e)
    (haccepts : ∀ verdict, r = .ok verdict → verdict.accepted = true → Serves (use 0) (nextReply replies)) :
    ∃ sent r, Exchange.Gives work replies sent r ∧ Heeds m asks use replies sent.length r := by
  rcases m.asked_or fields with ⟨address, haddress, hcarried⟩ | ⟨reason, hreason⟩ | hbalks
  · refine ⟨_, _, hgives address haddress hcarried, .one hraises haccepts fun _ other hother => ?_⟩
    exact absurd ((hasks 1 other).mp hother).1 Nat.one_ne_zero
  · obtain ⟨verdict, htold⟩ := hlost reason hreason
    refine ⟨_, _, htold, .none fun other hother => ?_⟩
    obtain ⟨-, rfl⟩ := (hasks 0 other).mp hother
    exact Masters.not_balks hreason
  · exact ⟨_, _, hbalked hbalks, .stuck ((hasks 0 fields).mpr ⟨rfl, rfl⟩) hbalks⟩

section Calls

variable (hreplies : ∀ reply ∈ replies, reply.OfRequest)
include hreplies

theorem relay_heeds (hasks : AsksOnce asks fields) (huse : use 0 = .verdict) :
    ∃ sent r, Exchange.Gives (m.relay fields) replies sent r ∧ Heeds m asks use replies sent.length r := by
  refine hasks.heeds (fun _ => Masters.relay_gives) (fun _ h => ⟨_, Masters.relay_lost h⟩) Masters.relay_balked
    (fun e => ?_) fun verdict hr haccepted => ?_
  · rw [huse]
    exact verdict_eq_error (nextReply_of_forall rfl hreplies)
  · rw [huse]
    exact verdict_serves hr haccepted

theorem canWrite_heeds {cluster : Json} (hasks : AsksOnce asks (topicInfoFields topic cluster))
    (huse : use 0 = .permission) :
    ∃ sent r, Exchange.Gives (canWrite m topic cluster) replies sent r ∧ Heeds m asks use replies sent.length r := by
  refine hasks.heeds (fun _ => canWrite_gives) (fun _ h => ⟨_, canWrite_lost h⟩) canWrite_balked
    (fun e => ?_) fun verdict hr haccepted => ?_
  · rw [huse]
    exact permission_eq_error (nextReply_of_forall rfl hreplies)
  · rw [huse]
    exact permission_serves hr haccepted

theorem askCanWrite_heeds (request : Json.Fields) :
    ∃ sent r, Exchange.Gives (askCanWrite m request) replies sent r ∧
      Heeds m (Method.queryCanWrite.Asks request replies) Method.queryCanWrite.use replies sent.length r := by
  unfold askCanWrite
  dsimp only
  split
  next topic htopic =>
    split
    · next hillegal =>
      refine ⟨_, _, .pure, .none fun fields hasks => ?_⟩
      cases hasks with
      | passed hknown => exact absurd hknown (by decide)
      | lookup hother hnamed hcluster =>
          cases htopic.symm.trans hother
          simp [hnamed, hcluster] at hillegal
    · next hlegal =>
      simp only [Bool.or_eq_true, not_or, Bool.not_eq_true] at hlegal
      refine canWrite_heeds hreplies (fun i other => ⟨fun hasks => ?_, ?_⟩) rfl
      · cases hasks with
        | passed hknown => exact absurd hknown (by decide)
        | lookup hother =>
            cases htopic.symm.trans hother
            exact ⟨rfl, rfl⟩
      · rintro ⟨rfl, rfl⟩
        exact .lookup htopic hlegal.1 hlegal.2
  next hnone =>
    refine ⟨_, _, .pure, .none fun fields hasks => ?_⟩
    cases hasks with
    | passed hknown => exact absurd hknown (by decide)
    | lookup hother => exact absurd hother (hnone _)

namespace Cloning

variable {c : Cloning} {address : String} {targets : List Json} {sent : List Request} {r : Except Failure Verdict}

/-- The fields of the targets in turn. -/
def AsksTargets (c : Cloning) (broker : Json.Fields) (targets : List Json) (i : Nat) (fields : Json.Fields) : Prop :=
  ∃ target, targets[i]? = some target ∧ fields = c.fieldsFor (settingsOf broker) target

theorem Reached.heeds (haddress : m.addressOf c.cluster = .ok address)
    (h : Reached m address c broker targets replies sent r) :
    Heeds m (c.AsksTargets broker targets) (fun _ => .verdict) replies sent.length r := by
  induction h with
  | done => exact .none fun fields ⟨target, htarget, _⟩ => by cases htarget
  | next _ haccepted _ ih =>
      obtain ⟨verdict, hok, haccepted⟩ := haccepted
      refine .next (verdict_serves hok haccepted) (fun e hbaffles => ?_)
        (ih fun reply hmem => hreplies reply (List.mem_of_mem_drop hmem))
      cases hok.symm.trans ((verdict_eq_error (nextReply_of_forall rfl hreplies)).mpr hbaffles)
  | stopped _ hrefused =>
      refine .one (fun e => verdict_eq_error (nextReply_of_forall rfl hreplies)) (fun _ => verdict_serves) ?_
      exact fun hserves => absurd (accepted_of_serves hserves) hrefused
  | balked hcarried =>
      refine .stuck ⟨_, rfl, rfl⟩ ⟨⟨address, ?_⟩, hcarried⟩
      rw [cluster_fieldsFor]
      exact haddress

theorem run_heeds (c : Cloning) :
    ∃ sent r, Exchange.Gives (c.run m) replies sent r ∧
      Heeds m (c.Asks replies) Method.clone.use replies sent.length r := by
  rcases m.asked_or (topicInfoFields c.source c.cluster) with ⟨address, haddress, hcarried⟩ | ⟨reason, hlost⟩ | hbalks
  · have hbaffles : ∀ e, (nextReply replies).brokers = .error e ↔ Baffles .brokers (nextReply replies) e :=
      fun e => brokers_eq_error (nextReply_of_forall rfl hreplies)
    -- Only a reply that tells of a broker is followed by requests for the targets.
    by_cases hfound : ∃ broker rest, (nextReply replies).brokers = .ok (.ok (broker :: rest))
    · obtain ⟨broker, rest, hfound⟩ := hfound
      obtain ⟨sent, r, hadd, hreached⟩ := addTargets_gives haddress broker c.targets (replies.drop 1)
      obtain ⟨answer, hshows, hbrokers⟩ := brokers_eq_ok.mp hfound
      have hrest := hreached.heeds (fun reply hmem => hreplies reply (List.mem_of_mem_drop hmem)) haddress
      refine ⟨_, _, run_found haddress hcarried hfound hadd, .next (.brokers hshows hbrokers) (fun e hlost => ?_) ?_⟩
      · cases hfound.symm.trans ((hbaffles e).mpr hlost)
      · refine Heeds.congr hrest fun i fields => ⟨?_, ?_⟩
        · rintro ⟨target, htarget, rfl⟩
          exact .target hshows hbrokers htarget
        · intro hasks
          cases hasks with
          | target hother hothers htarget =>
              cases hfound.symm.trans (brokers_eq_ok.mpr ⟨_, hother, hothers⟩)
              exact ⟨_, htarget, rfl⟩
    · refine ⟨_, _, run_unfound haddress hcarried fun broker rest h => hfound ⟨broker, rest, h⟩,
        .one (fun e => ?_) ?_ fun _ fields hasks => ?_⟩
      · rw [Except.bind_eq_error]
        constructor
        · rintro (hlost | ⟨_, -, htold⟩)
          · exact (hbaffles e).mp hlost
          · cases htold
        · exact fun h => .inl ((hbaffles e).mpr h)
      · intro verdict hr haccepted
        obtain ⟨found, -, htold⟩ := Except.bind_eq_ok.mp hr
        cases htold
        cases found <;> cases haccepted
      · cases hasks with
        | target hshows hbrokers => exact absurd ⟨_, _, brokers_eq_ok.mpr ⟨_, hshows, hbrokers⟩⟩ hfound
  · refine ⟨_, _, run_lost hlost, .none fun fields hasks => ?_⟩
    cases hasks
    exact Masters.not_balks hlost
  · exact ⟨_, _, run_balked hbalks, .stuck .source hbalks⟩

end Cloning

theorem Method.run_heeds (known : Method) (request : Json.Fields) :
    ∃ sent r, Exchange.Gives (known.run m request) replies sent r ∧
      Heeds m (known.Asks request replies) known.use replies sent.length r := by
  cases known with
  | clone =>
      simp only [Method.run, askClone]
      split
      · next c hrequest =>
        obtain ⟨sent, r, hgives, hheeds⟩ := c.run_heeds hreplies
        refine ⟨sent, r, hgives, hheeds.congr fun i fields => ⟨.cloned hrequest, ?_⟩⟩
        intro hasks
        cases hasks with
        | passed hknown => exact absurd hknown (by decide)
        | cloned hother h =>
            cases hrequest.symm.trans hother
            exact h
      · next hrequest =>
        refine ⟨_, _, .pure, .none fun fields hasks => ?_⟩
        cases hasks with
        | passed hknown => exact absurd hknown (by decide)
        | cloned hother => cases hrequest.symm.trans hother
  | queryCanWrite => exact askCanWrite_heeds hreplies request
  | authControl =>
      refine relay_heeds hreplies (fun i other => ⟨fun hasks => ?_, ?_⟩) rfl
      · cases hasks with
        | passed hknown => exact absurd hknown (by decide)
        | control => exact ⟨rfl, rfl⟩
      · rintro ⟨rfl, rfl⟩
        exact .control
  | _ =>
      refine relay_heeds hreplies (fun i other => ⟨fun hasks => ?_, ?_⟩) rfl
      · cases hasks
        exact ⟨rfl, rfl⟩
      · rintro ⟨rfl, rfl⟩
        exact .passed (by decide)

end Calls

/-- Whatever masters reply, a call ends with a verdict unless a reply that it takes is baffling or a request cannot
carry its fields, and the verdict is success only if every reply that it takes serves. -/
theorem dispatch_heeds (m : Masters) (known : Method) {body : Option String}
    (hbody : Json.parse (body.getD "") = .ok (.object request)) (hreplies : ∀ reply ∈ replies, reply.OfRequest) :
    ∃ sent r, Exchange.Gives (dispatch m (some known.name) body) replies sent r ∧
      Heeds m (known.Asks request replies) known.use replies sent.length r := by
  obtain ⟨sent, r, hrun, hheeds⟩ := known.run_heeds (m := m) hreplies request
  exact ⟨sent, r, dispatch_gives hbody hrun, hheeds⟩

end Uses

/-- The page of an answer with a word for its list of topics. -/
def wordyPage : Reply := .page ((Json.object [("errCode", .int 0), ("data", .string "none")]).render .spaced) 200

theorem dispatch_heeds_words :
    ∃ request, Json.parse ((some canWriteBody).getD "") = .ok (.object request) ∧
      (∀ reply ∈ [wordyPage], reply.OfRequest) ∧
      ∃ sent verdict, Exchange.Gives (dispatch oneMaster (some "queryCanWrite") (some canWriteBody)) [wordyPage] sent
          (.ok verdict) ∧
        Heeds oneMaster (Method.queryCanWrite.Asks request [wordyPage]) Method.queryCanWrite.use [wordyPage] sent.length
          (.ok verdict) ∧
        sent.length = 1 ∧ verdict.accepted = false := by
  have hcheck : (objectIn? (some canWriteBody)).isSome = true := by decide +kernel
  have hreplies : ∀ reply ∈ [wordyPage], reply.OfRequest := List.forall_mem_singleton.mpr trivial
  have hrun : (verdict? (dispatch oneMaster (some "queryCanWrite") (some canWriteBody) ⟨[wordyPage], [], []⟩)).any
      (fun p => !p.1.accepted && p.2.requests.length == 1) = true := by decide +kernel
  obtain ⟨request, hobject⟩ := Option.isSome_iff_exists.mp hcheck
  have hbody := parse_of_objectIn? hobject
  obtain ⟨sent, r, hgives, hheeds⟩ := dispatch_heeds oneMaster .queryCanWrite hbody hreplies
  obtain ⟨after, hcall, hrequests, -⟩ := hgives ⟨[wordyPage], [], []⟩ rfl
  rw [show Method.queryCanWrite.name = "queryCanWrite" from rfl] at hcall
  rw [hcall] at hrun
  cases r with
  | error e => cases hrun
  | ok verdict =>
      rw [Exchange.ended, verdict?, Option.any_some, Bool.and_eq_true, Bool.not_eq_true', beq_iff_eq, hrequests] at hrun
      exact ⟨request, hbody, hreplies, sent, verdict, hgives, hheeds, hrun.2, hrun.1⟩

def clusterBody : String := (Json.object [("clusterId", .int 1)]).render .spaced

/-- A page whose code is too large for a double. -/
def endlessPage : Reply := .page "\x7b\x22errCode\x22: 1e400\x7d" 200

/-- Whether a call failed for an endless number after one request. -/
def failsEndless : EStateM.Result Failure Wire Verdict → Bool
  | .error (.shape .infiniteNumber) after => after.requests.length == 1
  | _ => false

theorem dispatch_raises_of_endless :
    ∃ after, dispatch oneMaster (some "add") (some clusterBody) ⟨[endlessPage], [], []⟩ =
      .error (.shape .infiniteNumber) after ∧ after.requests.length = 1 := by
  have hrun : failsEndless (dispatch oneMaster (some "add") (some clusterBody) ⟨[endlessPage], [], []⟩) = true := by
    decide +kernel
  unfold failsEndless at hrun
  split at hrun
  · next after hcall => exact ⟨after, hcall, beq_iff_eq.mp hrun⟩
  · cases hrun

end Topic

end SinkKeeper
