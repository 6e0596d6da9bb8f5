import SinkKeeper.Proofs.LetterCase
import SinkKeeper.Proofs.TopicLookups

/-!
# Whether a topic can be written to

A topic can be written to just if a broker holds it and every broker that does takes messages. What is said here
depends on no order and no number of topics and brokers.
-/

namespace SinkKeeper

open Text (strip)

variable {j : Json} {broker : Json.Fields}

/-! ## Documents -/

/-- The items of a list. Nothing else has items. -/
def Json.listed : Json → List Json
  | .array items => items
  | _ => []

theorem Json.itemsOrNone_listed (h : j.kind ∈ [Json.Kind.null, .list]) : j.itemsOrNone = .ok j.listed := by
  cases j with
  | null => rfl
  | array items =>
      cases items with
      | nil => rfl
      | cons item items => rfl
  | number n => cases n <;> exact absurd h (by simp [Json.kind])
  | _ => exact absurd h (by simp [Json.kind])

theorem Json.IsList.listed {p : Json → Prop} (h : j.kind = .null ∨ j.IsList p) :
    j.kind ∈ [Json.Kind.null, .list] ∧ ∀ item ∈ j.listed, p item := by
  rcases h with hnull | ⟨items, rfl, hitems⟩
  · cases j with
    | null => exact ⟨List.mem_cons_self, fun _ h => absurd h List.not_mem_nil⟩
    | number n => cases n <;> cases hnull
    | _ => cases hnull
  · exact ⟨by simp [Json.kind], hitems⟩

namespace Topic

/-! ## What is read of a broker -/

/-- The fields that tell whether a broker takes messages: those of how it runs, unless there are none. -/
def running (broker : Json.Fields) : Json.Fields :=
  match Json.fieldOrNull broker "runInfo" with
  | .object (field :: fields) => field :: fields
  | _ => broker

/-- The word "true" in any letter case and with blanks around it, or anything else but a text that counts as present. -/
def SaysYes : Json → Prop
  | .string s => (strip s).toList.map Char.toLower = "true".toList
  | j => j.isTruthy = true

/-- The broker takes messages. -/
def Takes (broker : Json.Fields) : Prop := SaysYes (Json.fieldOrNull (running broker) "acceptPublish")

/-- The broker tells how it runs by an object, or by nothing that counts as present. -/
def Legible (broker : Json.Fields) : Prop :=
  (Json.fieldOrNull broker "runInfo").isTruthy = true → (Json.fieldOrNull broker "runInfo").kind = .object

instance : DecidablePred Legible := fun _ => inferInstanceAs (Decidable (_ → _))

theorem saysYes_iff : saysYes j = true ↔ SaysYes j := by
  cases j with
  | string s =>
      have hsole : ∀ d ∈ "true".toList, Text.Sole d := List.forall_iff_forall_mem.mp (by decide +kernel)
      rw [saysYes, beq_iff_eq, Text.lower_eq_iff hsole, SaysYes]
  | _ => exact Iff.rfl

theorem runInfo_eq (h : (Json.fieldOrNull broker "runInfo").isTruthy = true) (hlegible : Legible broker) :
    Json.fieldOrNull broker "runInfo" = .object (running broker) := by
  have hkind := hlegible h
  unfold running
  cases hruns : Json.fieldOrNull broker "runInfo" with
  | object fields =>
      rw [hruns] at h
      cases fields with
      | nil => cases h
      | cons field fields => rfl
  | number n =>
      rw [hruns] at hkind
      cases n <;> cases hkind
  | _ =>
      rw [hruns] at hkind
      cases hkind

theorem running_of_absent (h : ¬(Json.fieldOrNull broker "runInfo").isTruthy = true) : running broker = broker := by
  unfold running
  split
  next hruns => exact absurd (by rw [hruns]; rfl) h
  next => rfl

theorem acceptsPublish_of_legible (h : Legible broker) :
    acceptsPublish broker = .ok (saysYes (Json.fieldOrNull (running broker) "acceptPublish")) := by
  unfold acceptsPublish
  dsimp only
  split
  next htruthy =>
    rw [runInfo_eq htruthy h]
    rfl
  next hnone =>
    rw [running_of_absent hnone]
    rfl

theorem acceptsPublish_eq_true (h : Legible broker) : acceptsPublish broker = .ok true ↔ Takes broker := by
  rw [acceptsPublish_of_legible h, Except.ok.injEq, saysYes_iff, Takes]

theorem allAccept_of_legible {brokers : List Json.Fields} (h : ∀ broker ∈ brokers, Legible broker) :
    ∃ accepts, allAccept brokers = .ok accepts ∧ (accepts = true ↔ ∀ broker ∈ brokers, Takes broker) := by
  cases hall : allAccept brokers with
  | error e =>
      obtain ⟨before, broker, after, rfl, -, hbroker⟩ := allAccept_eq_error.mp hall
      rw [acceptsPublish_of_legible (h broker (by simp))] at hbroker
      cases hbroker
  | ok accepts =>
      refine ⟨accepts, rfl, ?_⟩
      have hiff : allAccept brokers = .ok true ↔ ∀ broker ∈ brokers, Takes broker := by
        rw [allAccept_eq_ok]
        exact forall₂_congr fun broker hmem => acceptsPublish_eq_true (h broker hmem)
      rw [← hiff, hall, Except.ok.injEq]

/-! ## What an answer tells -/

variable {data : Json}

/-- Some topic of a list has the broker in its own list. -/
def HoldsIn (topics : List Json) (broker : Json.Fields) : Prop :=
  ∃ topic, .object topic ∈ topics ∧ .object broker ∈ (Json.fieldOrNull topic "topicInfo").listed

/-- The data tell of the broker. -/
def Holds (data : Json) (broker : Json.Fields) : Prop := HoldsIn data.listed broker

theorem holdsIn_append {topics others : List Json} :
    HoldsIn (topics ++ others) broker ↔ HoldsIn topics broker ∨ HoldsIn others broker := by
  simp only [HoldsIn, List.mem_append, or_and_right, exists_or]

theorem holdsIn_cons {topic : Json.Fields} {topics : List Json} :
    HoldsIn (.object topic :: topics) broker ↔
      .object broker ∈ (Json.fieldOrNull topic "topicInfo").listed ∨ HoldsIn topics broker := by
  simp only [HoldsIn, List.mem_cons, or_and_right, exists_or, Json.object.injEq, exists_eq_left]

/-- Data with lists where lists are read, or nothing, and of brokers that tell how they run by an object if they tell
it. What is no object in a list is passed over. -/
structure TellsBrokers (data : Json) : Prop where
  topics : data.kind = .null ∨ data.IsList ListsBrokers
  legible : ∀ broker, Holds data broker → Legible broker

instance : DecidablePred TellsBrokers := fun data =>
  decidable_of_iff ((data.kind = .null ∨ data.IsList ListsBrokers) ∧ ∀ topic ∈ objectsOf data.listed,
      ∀ broker ∈ objectsOf (Json.fieldOrNull topic "topicInfo").listed, Legible broker)
    ⟨fun h => ⟨h.1, fun broker ⟨topic, htopic, hbroker⟩ =>
        h.2 topic (mem_objectsOf.mpr htopic) broker (mem_objectsOf.mpr hbroker)⟩,
      fun h => ⟨h.topics, fun topic htopic broker hbroker =>
        h.legible broker ⟨topic, mem_objectsOf.mp htopic, mem_objectsOf.mp hbroker⟩⟩⟩

theorem brokersOf_of_topics {answer : Json.Fields} (hdata : Json.fieldOrNull answer "data" = data)
    (h : data.kind = .null ∨ data.IsList ListsBrokers) :
    ∃ brokers, brokersOf answer = .ok brokers ∧ ∀ broker, broker ∈ brokers ↔ Holds data broker := by
  obtain ⟨hkind, hlists⟩ := Json.IsList.listed h
  have htopics : (Json.fieldOrNull answer "data").itemsOrNone = .ok data.listed := by
    rw [hdata, Json.itemsOrNone_listed hkind]
  have hmap : (objectsOf data.listed).mapM (fun topic => (Json.fieldOrNull topic "topicInfo").itemsOrNone) =
      .ok ((objectsOf data.listed).map fun topic => (Json.fieldOrNull topic "topicInfo").listed) := by
    rw [Except.mapM_eq_ok, List.forall₂_map_right_iff, List.forall₂_same]
    exact fun topic htopic => Json.itemsOrNone_listed (hlists _ (mem_objectsOf.mp htopic))
  refine ⟨_, Except.bind_eq_ok.mpr ⟨_, htopics, Except.bind_eq_ok.mpr ⟨_, hmap, rfl⟩⟩, fun broker => ?_⟩
  rw [mem_objectsOf, List.mem_flatten]
  constructor
  · rintro ⟨_, hlist, hbroker⟩
    obtain ⟨topic, htopic, rfl⟩ := List.mem_map.mp hlist
    exact ⟨topic, mem_objectsOf.mp htopic, hbroker⟩
  · rintro ⟨topic, htopic, hbroker⟩
    exact ⟨_, List.mem_map.mpr ⟨topic, mem_objectsOf.mpr htopic, rfl⟩, hbroker⟩

/-! ## The verdict -/

variable {m : Masters} {address topic : String} {cluster : Json} {request answer : Json.Fields}
  {replies : List Reply} {reply : Reply} {body : Option String}

/-- The verdict on data: yes if they tell of a broker and all take messages, no such topic if they tell of none. -/
structure Permits (topic : String) (data : Json) (verdict : Verdict) : Prop where
  accepted : verdict.accepted = true ↔ (∃ broker, Holds data broker) ∧ ∀ broker, Holds data broker → Takes broker
  unknown : verdict = topicUnknown topic ↔ ¬∃ broker, Holds data broker

theorem permission_permits (hshows : reply.Shows answer) (htells : TellsBrokers (Json.fieldOrNull answer "data")) :
    ∃ verdict, reply.permission topic = .ok verdict ∧ Permits topic (Json.fieldOrNull answer "data") verdict := by
  obtain ⟨brokers, hbrokers, hholds⟩ := brokersOf_of_topics rfl htells.topics
  rw [permission_of_shows hshows, hbrokers]
  cases brokers with
  | nil =>
      have hnone : ¬∃ broker, Holds (Json.fieldOrNull answer "data") broker :=
        fun ⟨broker, h⟩ => absurd ((hholds broker).mpr h) List.not_mem_nil
      exact ⟨topicUnknown topic, rfl, ⟨fun h => (by cases h), fun h => absurd h.1 hnone⟩, ⟨fun _ => hnone, fun _ => rfl⟩⟩
  | cons first others =>
      have hsome : ∃ broker, Holds (Json.fieldOrNull answer "data") broker :=
        ⟨first, (hholds first).mp List.mem_cons_self⟩
      obtain ⟨accepts, hall, htakes⟩ := allAccept_of_legible fun broker hmem =>
        htells.legible broker ((hholds broker).mp hmem)
      refine ⟨⟨0, "", accepts, .null⟩, ?_, ?_, fun h => ?_, fun h => absurd hsome h⟩
      · change permissionOf topic (first :: others) = _
        rw [permissionOf, if_neg (by simp), hall]
        rfl
      · simp only [hholds] at htakes
        rw [htakes]
        exact ⟨fun h => ⟨hsome, h⟩, And.right⟩
      · have hcode : (0 : Int) = -1 := congrArg Verdict.code h
        omega

/-! ## One broker more -/

/-- The data with one broker more: in the list of a topic, or as the only one of a new topic. -/
inductive Widens (broker : Json.Fields) (data : Json) : Json → Prop
  | listed {before after left right : List Json} {topic wider : Json.Fields}
      (hdata : data.listed = before ++ .object topic :: after)
      (hbrokers : (Json.fieldOrNull topic "topicInfo").listed = left ++ right)
      (hwider : Json.fieldOrNull wider "topicInfo" = .array (left ++ .object broker :: right)) :
      Widens broker data (.array (before ++ .object wider :: after))
  | alone {before after : List Json} {topic : Json.Fields} (hdata : data.listed = before ++ after)
      (hbroker : Json.fieldOrNull topic "topicInfo" = .array [.object broker]) :
      Widens broker data (.array (before ++ .object topic :: after))

theorem Widens.holds_iff {wider : Json} {other : Json.Fields} (h : Widens broker data wider) :
    Holds wider other ↔ other = broker ∨ Holds data other := by
  cases h with
  | listed hdata hbrokers hwider =>
      rw [Holds, Json.listed, Holds, hdata, holdsIn_append, holdsIn_cons, holdsIn_append, holdsIn_cons, hbrokers, hwider,
        Json.listed, List.mem_append, List.mem_append, List.mem_cons, Json.object.injEq]
      grind
  | alone hdata hbroker =>
      rw [Holds, Json.listed, Holds, hdata, holdsIn_append, holdsIn_cons, holdsIn_append, hbroker, Json.listed,
        List.mem_singleton, Json.object.injEq]
      grind

/-- The wider data are a list of the topics that there were and one that tells its brokers by a list. -/
theorem Widens.topics {wider : Json} (h : Widens broker data wider) :
    ∃ before after topic, wider = .array (before ++ .object topic :: after) ∧
      (∀ item ∈ before ++ after, item ∈ data.listed) ∧ (Json.fieldOrNull topic "topicInfo").kind = .list := by
  cases h with
  | listed hdata _ hwider =>
      refine ⟨_, _, _, rfl, fun item hitem => ?_, by rw [hwider]; rfl⟩
      rw [hdata]
      exact ((List.Sublist.refl _).append (List.sublist_cons_self _ _)).subset hitem
  | alone hdata hbroker => exact ⟨_, _, _, rfl, fun item hitem => hdata ▸ hitem, by rw [hbroker]; rfl⟩

theorem Widens.tellsBrokers {wider : Json} (h : Widens broker data wider) (htells : TellsBrokers data)
    (hlegible : Legible broker) : TellsBrokers wider := by
  refine ⟨.inr ?_, fun other hother => ?_⟩
  · obtain ⟨before, after, topic, rfl, hthere, hlist⟩ := h.topics
    refine ⟨_, rfl, fun item hitem => ?_⟩
    have hlists : ∀ item ∈ before ++ after, ListsBrokers item := fun item hitem =>
      (Json.IsList.listed htells.topics).2 item (hthere item hitem)
    rcases List.mem_append.mp hitem with hbefore | hrest
    · exact hlists item (List.mem_append_left _ hbefore)
    · rcases List.mem_cons.mp hrest with rfl | hafter
      · exact List.mem_cons_of_mem _ (hlist ▸ List.mem_cons_self)
      · exact hlists item (List.mem_append_right _ hafter)
  · rcases h.holds_iff.mp hother with rfl | hheld
    · exact hlegible
    · exact htells.legible other hheld

/-- A broker that takes no messages keeps a topic from being written to, wherever it stands. -/
theorem Permits.of_widens {wider : Json} {verdict : Verdict} (h : Widens broker data wider)
    (hpermits : Permits topic wider verdict) (hrefuses : ¬Takes broker) :
    verdict.accepted = false ∧ verdict ≠ topicUnknown topic := by
  have hholds : Holds wider broker := h.holds_iff.mpr (.inl rfl)
  constructor
  · rw [Bool.eq_false_iff]
    exact fun haccepted => hrefuses ((hpermits.accepted.mp haccepted).2 broker hholds)
  · exact fun hunknown => hpermits.unknown.mp hunknown ⟨broker, hholds⟩

/-! ## The call -/

/-- A call that asks whether a topic can be written to says yes just if a broker holds the topic and every one that
does takes messages, and that there is no such topic just if none holds it. One broker more that takes none, wherever
it stands, and the call says no. The code of the answer does not count. -/
theorem dispatch_permits (m : Masters) (hbody : Json.parse (body.getD "") = .ok (.object request))
    (hlookup : Method.queryCanWrite.lookup? request = some (topic, cluster))
    (haddress : m.addressOf cluster = .ok address) (hshows : (nextReply replies).Shows answer)
    (htells : TellsBrokers (Json.fieldOrNull answer "data")) :
    (∃ verdict, Exchange.Gives (dispatch m (some Method.queryCanWrite.name) body) replies
        [m.requestTo address (topicInfoFields topic cluster)] (.ok verdict) ∧
      Permits topic (Json.fieldOrNull answer "data") verdict) ∧
    ∀ broker others wider, Legible broker → ¬Takes broker → (nextReply others).Shows wider →
      Widens broker (Json.fieldOrNull answer "data") (Json.fieldOrNull wider "data") →
      ∃ verdict, Exchange.Gives (dispatch m (some Method.queryCanWrite.name) body) others
          [m.requestTo address (topicInfoFields topic cluster)] (.ok verdict) ∧
        verdict.accepted = false ∧ verdict ≠ topicUnknown topic := by
  have hcall : ∀ replies answer, (nextReply replies).Shows answer → TellsBrokers (Json.fieldOrNull answer "data") →
      ∃ verdict, Exchange.Gives (dispatch m (some Method.queryCanWrite.name) body) replies
          [m.requestTo address (topicInfoFields topic cluster)] (.ok verdict) ∧
        Permits topic (Json.fieldOrNull answer "data") verdict := by
    intro replies answer hshows htells
    obtain ⟨verdict, hpermission, hpermits⟩ := permission_permits hshows htells
    refine ⟨verdict, dispatch_gives hbody ?_, hpermits⟩
    rw [run_of_canWrite_lookup hlookup, ← hpermission]
    exact canWrite_gives haddress (canCarry_plain _)
  refine ⟨hcall replies answer hshows htells, fun broker others wider hlegible hrefuses hwider hwidens => ?_⟩
  obtain ⟨verdict, hgives, hpermits⟩ := hcall others wider hwider (hwidens.tellsBrokers htells hlegible)
  exact ⟨verdict, hgives, hpermits.of_widens hwidens hrefuses⟩

/-- A page of two brokers that take messages, each in its own words. -/
def takingPage : Reply :=
  .page ((Json.object [("errCode", .int 0), ("data", .array [.object [("topicInfo", .array
    [.object [("acceptPublish", .string " TRUE ")], .object [("runInfo", .object [("acceptPublish", .int 1)])]])]])]
    ).render .spaced) 200

theorem dispatch_permits_taking :
    ∃ request cluster answer verdict, Json.parse ((some canWriteBody).getD "") = .ok (.object request) ∧
      Method.queryCanWrite.lookup? request = some ("t", cluster) ∧
      oneMaster.addressOf cluster = .ok "10.0.0.7:8080" ∧ (nextReply [takingPage]).Shows answer ∧
      TellsBrokers (Json.fieldOrNull answer "data") ∧
      Permits "t" (Json.fieldOrNull answer "data") verdict ∧ verdict.accepted = true := by
  obtain ⟨request, cluster, hbody, hlookup, haddress⟩ := canWriteBody_looks
  have hpage : takingPage.answer?.any (fun answer => TellsBrokers (Json.fieldOrNull answer "data")) = true := by
    decide +kernel
  have hrun : (verdict? (dispatch oneMaster (some "queryCanWrite") (some canWriteBody) ⟨[takingPage], [], []⟩)).any
      (·.1.accepted) = true := by decide +kernel
  obtain ⟨answer, hanswer, htells⟩ := (Option.any_eq_true _ _).mp hpage
  have hshows : (nextReply [takingPage]).Shows answer := shows_of_answer? hanswer
  obtain ⟨⟨verdict, hgives, hpermits⟩, -⟩ :=
    dispatch_permits oneMaster hbody hlookup haddress hshows (of_decide_eq_true htells)
  obtain ⟨after, hcall, -⟩ := hgives ⟨[takingPage], [], []⟩ rfl
  rw [show Method.queryCanWrite.name = "queryCanWrite" from rfl] at hcall
  rw [hcall] at hrun
  exact ⟨request, cluster, answer, verdict, hbody, hlookup, haddress, hshows, of_decide_eq_true htells, hpermits, hrun⟩

end Topic

end SinkKeeper
