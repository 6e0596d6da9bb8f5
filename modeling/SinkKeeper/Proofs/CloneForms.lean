import SinkKeeper.Json.Equality
import SinkKeeper.Proofs.Clones
import SinkKeeper.Proofs.Clusters

/-!
# Two forms of a clone request

The targets and the brokers of a cloning are lists of names, or texts with commas between names. Names are trimmed in a
text but not in a list, so that a list stands for the same cloning as a text exactly if its names are trimmed already.
-/

namespace SinkKeeper.Topic

open Exchange (Gives)

variable {m : Masters} {address : String} {names ids : List String} {fields request broker : Json.Fields}
  {replies : List Reply} {c : Cloning}

/-! ## Lists of names -/

/-- A name without commas that is not blank. It may have blanks around it. -/
structure IsName (s : String) : Prop where
  comma : ',' ∉ s.toList
  full : Text.isAllBlank s = false

instance : DecidablePred IsName := fun s =>
  decidable_of_iff (',' ∉ s.toList ∧ Text.isAllBlank s = false) ⟨fun h => ⟨h.1, h.2⟩, fun h => ⟨h.comma, h.full⟩⟩

def listed (names : List String) : Json := .array (names.map .string)

def joined (names : List String) : Json := .string (",".intercalate names)

theorem texts_of_strings (names : List String) : (names.map Json.string).map Json.text = names := by
  rw [List.map_map]
  exact List.map_id names

theorem IsName.strip_ne {s : String} (h : IsName s) : Text.strip s ≠ "" :=
  fun hempty => Bool.false_ne_true (h.full.symm.trans (Text.strip_eq_empty_iff.mp hempty))

theorem IsName.strip {s : String} (h : IsName s) : IsName (Text.strip s) where
  comma := by
    obtain ⟨left, right, hs, -, -⟩ := Text.trimWith_between Text.isBlank s.toList
    rw [Text.strip, String.toList_ofList]
    refine fun hmem => h.comma ?_
    rw [hs]
    exact List.mem_append_left _ (List.mem_append_right _ hmem)
  full := by
    rw [← Bool.not_eq_true, ← Text.strip_eq_empty_iff, Text.strip_strip]
    exact h.strip_ne

/-- The request has the fields, but targets and brokers of its own. -/
structure Clones (fields : Json.Fields) (targets brokers : Json) (request : Json.Fields) : Prop where
  targets : Json.fieldOrNull request "targetTopicNames" = targets
  brokers : Json.fieldOrNull request "brokerId" = brokers
  others : ∀ key ∉ ["targetTopicNames", "brokerId"], Json.fieldOrNull request key = Json.fieldOrNull fields key

/-- The cloning that fields ask for, with the given targets and brokers. -/
def Cloning.ofFields? (fields : Json.Fields) (targets brokers : List Json) : Option Cloning :=
  let source := Text.strip ((Json.fieldOrNull fields "sourceTopicName").orElse (.string "")).text
  if source = "" || targets.isEmpty || brokers.isEmpty then none
  else some ⟨source, targets, brokers, Json.fieldOrNull fields "clusterId", creatorOf fields⟩

theorem Clones.ofRequest? {targets brokers : Json} (h : Clones fields targets brokers request) :
    Cloning.ofRequest? request = Cloning.ofFields? fields (namesOf targets) (namesOf brokers) := by
  have hcreator : creatorOf request = creatorOf fields := by
    rw [creatorOf, h.others _ (by decide), h.others _ (by decide), creatorOf]
  rw [Cloning.ofRequest?, h.others "sourceTopicName" (by decide), h.others "clusterId" (by decide), hcreator, h.targets,
    h.brokers]
  rfl

theorem Exchange.Gives.unique {α : Type} {work : Exchange α} {sent sent' : List Request} {r r' : Except Failure α}
    (h : Gives work replies sent r) (h' : Gives work replies sent' r') : sent = sent' := by
  obtain ⟨after, hrun, hrequests, -⟩ := h ⟨replies, [], []⟩ rfl
  obtain ⟨after', hrun', hrequests', -⟩ := h' ⟨replies, [], []⟩ rfl
  have hended := hrun.symm.trans hrun'
  have hafter : after = after' := by
    cases r <;> cases r' <;> cases hended <;> rfl
  rw [List.nil_append] at hrequests hrequests'
  rw [← hrequests, hafter, hrequests']

/-- Whatever the masters and their replies, both bodies make a call for a cloning send the same requests and end the
same. -/
def Agree (body body' : Option String) : Prop :=
  ∀ (m : Masters) (replies : List Reply), ∃ sent r,
    Gives (dispatch m (some Method.clone.name) body) replies sent r ∧
      Gives (dispatch m (some Method.clone.name) body') replies sent r

variable {body body' : Option String} {request' : Json.Fields}

namespace Cloning

theorem Reached.sent_of_accepted {targets : List Json} {sent : List Request} {r : Except Failure Verdict}
    {reply : Reply} (haccepted : Accepted reply)
    (h : Reached m address c broker targets (List.replicate targets.length reply) sent r) :
    sent = targets.map fun target => m.requestTo address (c.fieldsFor (settingsOf broker) target) := by
  induction targets generalizing sent with
  | nil =>
      cases h
      rfl
  | cons target targets ih =>
      rw [List.length_cons, List.replicate_succ] at h
      cases h with
      | next _ _ hrest => exact congrArg _ (ih hrest)
      | stopped _ hrefused => exact absurd haccepted hrefused
      | balked hcarried => exact absurd (canCarry_plain _) (Bool.eq_false_iff.mp hcarried)

/-- A request for a target tells the target and the brokers. -/
theorem requestTo_inj {settings : Json.Fields} {targets brokers : List Json} {s t : String}
    (h : m.requestTo address (c.fieldsFor settings (.string s)) = m.requestTo address
      ({ c with targets := targets, brokers := brokers }.fieldsFor settings (.string t))) :
    s = t ∧ Text.join "," (c.brokers.map Json.text) = Text.join "," (brokers.map Json.text) := by
  have hurl := congrArg Request.url h
  rw [Masters.requestTo, Masters.requestTo] at hurl
  have hpairs := congrArg Text.Form.read (String.append_right_inj _ |>.mp hurl)
  rw [Text.Form.read_write, Text.Form.read_write, fieldsFor, queryPairs_append, fieldsFor, queryPairs_append,
    List.append_cancel_left_eq] at hpairs
  simp only [queryPairs, List.filter_cons, Json.isNull, Bool.not_false, if_true, List.map_cons, List.cons.injEq,
    Prod.mk.injEq, true_and, queryText, Json.text] at hpairs
  exact ⟨hpairs.1, hpairs.2.1⟩

theorem brokerPage_brokers : ∃ broker rest, (brokerPage 0).brokers = .ok (.ok (broker :: rest)) := by
  have hpage : ((brokerPage 0).brokers.toOption.bind Except.toOption).any (fun brokers => !brokers.isEmpty) = true := by
    decide +kernel
  obtain ⟨brokers, hfound, hne⟩ := (Option.any_eq_true _ _).mp hpage
  obtain ⟨found, hread, hbrokers⟩ := Option.bind_eq_some_iff.mp hfound
  cases brokers with
  | nil => cases hne
  | cons broker rest =>
      exact ⟨broker, rest, by rw [Except.toOption_eq_some.mp hread, Except.toOption_eq_some.mp hbrokers]⟩

theorem plainPage_accepted : Accepted (plainPage 0) := by
  have hpage : (plainPage 0).verdict.toOption.any (·.accepted) = true := by decide +kernel
  obtain ⟨verdict, hverdict, haccepted⟩ := (Option.any_eq_true _ _).mp hpage
  exact ⟨verdict, Except.toOption_eq_some.mp hverdict, haccepted⟩

/-- The source has a broker and each target is accepted: all requests are sent. -/
theorem run_accepted {found accepting : Reply} {rest : List Json.Fields}
    (haddress : m.addressOf c.cluster = .ok address) (hfound : found.brokers = .ok (.ok (broker :: rest)))
    (haccepting : Accepted accepting) :
    ∃ r, Gives (c.run m) (found :: List.replicate c.targets.length accepting)
      (m.requestTo address (topicInfoFields c.source c.cluster) ::
        c.targets.map fun target => m.requestTo address (c.fieldsFor (settingsOf broker) target)) r := by
  obtain ⟨sent, r, hadd, hreached⟩ := addTargets_gives haddress broker c.targets
    (List.replicate c.targets.length accepting)
  cases hreached.sent_of_accepted haccepting
  exact ⟨r, run_found haddress (canCarry_plain _) hfound hadd⟩

end Cloning

/-- Any cluster has a master somewhere. -/
theorem exists_addressOf (cluster : Json) : ∃ (m : Masters) (address : String), m.addressOf cluster = .ok address := by
  refine ⟨⟨[(Text.strip cluster.text, "10.0.0.7:8080")], .whole 10⟩, "10.0.0.7:8080", ?_⟩
  rw [Masters.addressOf_eq_ok (by simp)]
  by_cases hcluster : Unnamed cluster
  · exact .sole hcluster rfl
  · exact .named hcluster (List.mem_singleton_self _) (by decide)

theorem dispatch_clone_gives {sent : List Request} {r : Except Failure Verdict}
    (hbody : Json.parse (body.getD "") = .ok (.object request)) (hclone : Cloning.ofRequest? request = some c)
    (h : Gives (c.run m) replies sent r) : Gives (dispatch m (some Method.clone.name) body) replies sent r := by
  refine dispatch_gives hbody ?_
  simp only [Method.run, askClone, hclone]
  exact h

/-- Bodies that agree ask for the same targets on the same brokers. -/
theorem Agree.same {names' ids' : List String} (h : Agree body body')
    (hbody : Json.parse (body.getD "") = .ok (.object request))
    (hbody' : Json.parse (body'.getD "") = .ok (.object request'))
    (hclone : Cloning.ofRequest? request =
      some { c with targets := names.map .string, brokers := ids.map .string })
    (hclone' : Cloning.ofRequest? request' =
      some { c with targets := names'.map .string, brokers := ids'.map .string })
    (hne : names ≠ []) (hlength : names'.length = names.length) :
    names = names' ∧ Text.join "," ids = Text.join "," ids' := by
  obtain ⟨m, address, haddress⟩ := exists_addressOf c.cluster
  obtain ⟨broker, rest, hfound⟩ := Cloning.brokerPage_brokers
  have hrun := fun names ids : List String =>
    Cloning.run_accepted (c := { c with targets := names.map .string, brokers := ids.map .string }) haddress hfound
      Cloning.plainPage_accepted
  obtain ⟨r, hone⟩ := hrun names ids
  obtain ⟨r', hother⟩ := hrun names' ids'
  rw [List.length_map] at hone
  rw [List.length_map, hlength] at hother
  obtain ⟨sent, told, hgives, hgives'⟩ := h m (brokerPage 0 :: List.replicate names.length (plainPage 0))
  have hsent := hgives.unique (dispatch_clone_gives hbody hclone hone)
  have hsent' := hgives'.unique (dispatch_clone_gives hbody' hclone' hother)
  have htargets := (List.cons_eq_cons.mp (hsent.symm.trans hsent')).2
  -- Target by target, the requests are the same.
  rw [List.map_map, List.map_map, ← List.forall₂_eq_eq_eq, List.forall₂_map_left_iff,
    List.forall₂_map_right_iff] at htargets
  have hsame := htargets.imp fun s t hst => Cloning.requestTo_inj hst
  dsimp only at hsame
  rw [texts_of_strings, texts_of_strings] at hsame
  refine ⟨List.forall₂_eq_eq_eq ▸ hsame.imp fun _ _ => And.left, ?_⟩
  cases hsame with
  | nil => exact absurd rfl hne
  | cons hfirst => exact hfirst.2

/-! ## Lists and texts -/

end SinkKeeper.Topic
