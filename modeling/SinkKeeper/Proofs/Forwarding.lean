import SinkKeeper.Proofs.Exchanges

/-!
# What masters receive

A request that is passed on reaches the master with the fields that were asked for and no others, whatever characters
they hold. Switching the control of access puts three fields of its own in the place of those of the request.
-/

namespace SinkKeeper

/-! ## Names of a document -/

namespace Json

theorem numberFrom_number {start next : Cursor} {j : Json} (h : numberFrom start = .ok (j, next)) :
    ∃ n, j = .number n := by
  unfold numberFrom at h
  dsimp only at h
  -- Whether there is a sign or not.
  split at h
  all_goals
    split at h
    · cases h
    split at h
    · split at h
      · cases h
      · cases h
        exact ⟨_, rfl⟩
    · cases h
      exact ⟨_, rfl⟩

theorem named?_not_object {start next : Cursor} {fields : Fields} : named? start ≠ some (.object fields, next) := by
  intro h
  obtain ⟨⟨name, value⟩, hentry, hread⟩ := List.exists_of_findSome?_eq_some h
  obtain ⟨rest, -, hvalue⟩ := Option.map_eq_some_iff.mp hread
  cases hvalue
  simp [namedValues] at hentry

theorem isNull_iff {j : Json} : j.isNull = true ↔ j.kind = .null := by
  cases j with
  | number n => cases n <;> simp [isNull, kind]
  | _ => simp [isNull, kind]

variable [Runtime]

theorem nodup_of_valueFrom {room : Option Nat} {fuel : Nat} {start next : Cursor} {fields : Fields}
    (h : valueFrom room fuel start = .ok (.object fields, next)) : (fields.map (·.1)).Nodup := by
  cases fuel with
  | zero => cases h
  | succ fuel =>
      rw [valueFrom] at h
      split at h
      · obtain ⟨read, -, hread⟩ := Except.bind_eq_ok.mp h
        cases hread
      · split at h
        · cases h
        dsimp only at h
        split at h
        · cases h
        · obtain ⟨read, -, hread⟩ := Except.bind_eq_ok.mp h
          cases hread
      · split at h
        · cases h
        dsimp only at h
        split at h
        · cases h
          exact List.nodup_nil
        · obtain ⟨read, -, hread⟩ := Except.bind_eq_ok.mp h
          cases hread
          exact Entries.nodup_ofList _
      · split at h
        · next read hnamed =>
          cases h
          exact absurd hnamed named?_not_object
        · obtain ⟨n, hn⟩ := numberFrom_number h
          cases hn

/-- An object that was read has each name once. -/
theorem nodup_of_parse {s : String} {fields : Fields} (h : parse s = .ok (.object fields)) :
    (fields.map (·.1)).Nodup := by
  unfold parse at h
  split at h
  · next value hdocument =>
    cases h
    unfold documentFrom at hdocument
    split at hdocument
    · cases hdocument
    obtain ⟨⟨value, next⟩, hvalue, hlast⟩ := Except.bind_eq_ok.mp hdocument
    dsimp only at hlast
    split at hlast
    · cases hlast
      exact nodup_of_valueFrom hvalue
    · cases hlast
  · cases h
  · cases h

/-- The text that a request carries for a value. -/
inductive Spelled : Json → String → Prop
  | yes : Spelled (.bool true) "true"
  | no : Spelled (.bool false) "false"
  | list (items : List Json) : Spelled (.array items) (",".intercalate (items.map text))
  | other {j : Json} (hbool : j.kind ≠ .bool) (hlist : j.kind ≠ .list) : Spelled j j.text

end Json

namespace Topic

open Exchange (Gives)

variable {m : Masters} {request : Json.Fields} {address : String} {known : Method}

/-! ## Fields on the way -/

theorem join_eq_intercalate (separator : String) (texts : List String) :
    Text.join separator texts = separator.intercalate texts := by
  induction texts with
  | nil => rw [Text.join, String.intercalate_nil]
  | cons s texts ih =>
      cases texts with
      | nil => rw [Text.join, String.intercalate_singleton]
      | cons t more => rw [Text.join, ih, String.intercalate_cons_cons]

section Carried

variable [Runtime]

theorem queryText_spelled (j : Json) : j.Spelled (queryText j) := by
  cases j with
  | bool b => cases b <;> constructor
  | array items =>
      rw [queryText, join_eq_intercalate]
      exact .list items
  | number n => cases n <;> exact .other (by simp [Json.kind]) (by simp [Json.kind])
  | _ => exact .other (by simp [Json.kind]) (by simp [Json.kind])

/-- The pairs are the fields that are not null, in their order, each value spelled as requests do. -/
def Spells (fields : Json.Fields) (pairs : List (String × String)) : Prop :=
  List.Forall₂ (fun p q => q.1 = p.1 ∧ p.2.Spelled q.2) (fields.filter fun p => p.2.kind ≠ .null) pairs

theorem queryPairs_spells (fields : Json.Fields) : Spells fields (queryPairs fields) := by
  have hnull : (fields.filter fun p => !p.2.isNull) = fields.filter fun p => p.2.kind ≠ .null := by
    refine List.filter_congr fun p _ => ?_
    rw [Bool.eq_iff_iff, Bool.not_eq_true', decide_eq_true_iff, ne_eq, ← Json.isNull_iff, Bool.not_eq_true]
  rw [Spells, ← hnull, queryPairs, List.forall₂_map_right_iff]
  exact List.forall₂_same.mpr fun p _ => ⟨rfl, queryText_spelled p.2⟩

theorem queryPairs_filter (p : String → Bool) (fields : Json.Fields) :
    queryPairs (fields.filter fun e => p e.1) = (queryPairs fields).filter fun q => p q.1 := by
  rw [queryPairs, queryPairs, List.filter_map, List.filter_filter, List.filter_filter]
  exact congrArg (List.map _) (List.filter_congr fun e _ => Bool.and_comm _ _)

/-! ## Calls that are passed on -/

/-- The operations that are passed on as they are. -/
def passedOn : List Method := [.add, .modify, .delete, .remove, .publish, .subscribe]

theorem Method.run_of_passedOn (h : known ∈ passedOn) : known.run m request = m.relay request := by
  cases known with
  | clone | authControl | queryCanWrite => exact absurd h (by decide)
  | _ => rfl

end Carried

/-- What the control of access is switched with. -/
def controlPairs : List (String × String) :=
  [("method", "admin_set_topic_authorize_control"), ("type", "op_modify"), ("createUser", "admin")]

def isControl (name : String) : Bool := name ∈ controlPairs.map (·.1)

theorem cluster_authControlFields :
    Json.fieldOrNull (authControlFields request) "clusterId" = Json.fieldOrNull request "clusterId" := by
  rw [Json.fieldOrNull, authControlFields, Entries.lookup_put_of_ne (by decide), Entries.lookup_put_of_ne (by decide),
    Entries.lookup_put_of_ne (by decide), Json.fieldOrNull]

theorem authControlFields_others :
    ((authControlFields request).filter fun e => !isControl e.1) = request.filter fun e => !isControl e.1 := by
  rw [authControlFields, Entries.filter_put (fun name => !isControl name) rfl,
    Entries.filter_put (fun name => !isControl name) rfl, Entries.filter_put (fun name => !isControl name) rfl]

/-- Each field of the control comes once, with its own value. -/
theorem authControlFields_control (hnodup : (request.map (·.1)).Nodup) {p : String × String} (hp : p ∈ controlPairs) :
    ((authControlFields request).filter fun e => e.1 == p.1) = [(p.1, .string p.2)] := by
  have hmethod := Entries.nodup_put "method" (.string "admin_set_topic_authorize_control") hnodup
  have htype := Entries.nodup_put "type" (.string "op_modify") hmethod
  simp only [controlPairs, List.mem_cons, List.not_mem_nil, or_false] at hp
  rcases hp with rfl | rfl | rfl
  · rw [authControlFields, Entries.filter_put (· == "method") rfl, Entries.filter_put (· == "method") rfl]
    exact Entries.filter_put_self _ _ hnodup
  · rw [authControlFields, Entries.filter_put (· == "type") rfl]
    exact Entries.filter_put_self _ _ hmethod
  · exact Entries.filter_put_self _ _ htype

/-- A call that is passed on asks the master of its cluster once, with its own fields, each in its place and nothing
else; of a control of access, three fields are those of the control and all others its own. -/
theorem dispatch_forwards (m : Masters) {body : Option String} (hbody : Json.parse (body.getD "") = .ok (.object request))
    (haddress : m.addressOf (Json.fieldOrNull request "clusterId") = .ok address) (replies : List Reply) :
    (∀ known ∈ passedOn, ∃ sent pairs r, Gives (dispatch m (some known.name) body) replies [sent] r ∧
      sent.Carries m address pairs ∧ Spells request pairs) ∧
    ∃ sent pairs r, Gives (dispatch m (some Method.authControl.name) body) replies [sent] r ∧
      sent.Carries m address pairs ∧
      (∀ p ∈ controlPairs, (pairs.filter fun q => q.1 == p.1) = [p]) ∧
      Spells (request.filter fun e => !isControl e.1) (pairs.filter fun q => !isControl q.1) := by
  constructor
  · intro known hknown
    have hrun : Gives (known.run m request) replies [m.requestTo address request] (nextReply replies).verdict := by
      rw [Method.run_of_passedOn hknown]
      exact Masters.relay_gives haddress (canCarry_plain request)
    exact ⟨_, _, _, dispatch_gives hbody hrun, m.requestTo_carries address request, queryPairs_spells request⟩
  · have haddress' : m.addressOf (Json.fieldOrNull (authControlFields request) "clusterId") = .ok address := by
      rwa [cluster_authControlFields]
    refine ⟨_, _, _, dispatch_gives hbody (Masters.relay_gives haddress' (canCarry_plain _)),
      m.requestTo_carries address _, fun p hp => ?_, ?_⟩
    · rw [← queryPairs_filter (· == p.1), authControlFields_control (Json.nodup_of_parse hbody) hp]
      rfl
    · rw [← queryPairs_filter fun name => !isControl name, authControlFields_others]
      exact queryPairs_spells _

/-- A body with the marks of a query string in its names and values, and with a method of its own. -/
def hostileBody : String :=
  (Json.object [("clusterId", .int 1), ("topicName", .string "t&type=op_delete#é%41+ "), ("a=b&c", .bool true),
    ("method", .string "other"), ("brokerId", .array [.int 1, .string "2"]), ("left", .null)]).render .spaced

theorem dispatch_forwards_hostile :
    ∃ request, Json.parse ((some hostileBody).getD "") = .ok (.object request) ∧
      oneMaster.addressOf (Json.fieldOrNull request "clusterId") = .ok "10.0.0.7:8080" ∧
      (∃ sent pairs r, Gives (dispatch oneMaster (some "add") (some hostileBody)) [] [sent] r ∧
        sent.Carries oneMaster "10.0.0.7:8080" pairs ∧ Spells request pairs) ∧
      ∃ sent pairs r, Gives (dispatch oneMaster (some "authControl") (some hostileBody)) [] [sent] r ∧
        sent.Carries oneMaster "10.0.0.7:8080" pairs ∧
        (pairs.filter fun q => q.1 == "method") = [("method", "admin_set_topic_authorize_control")] := by
  have hcheck : (objectIn? (some hostileBody)).any (fun request =>
      (oneMaster.addressOf (Json.fieldOrNull request "clusterId")).toOption == some "10.0.0.7:8080") = true := by
    decide +kernel
  obtain ⟨request, hobject, hcluster⟩ := (Option.any_eq_true _ _).mp hcheck
  have hbody := parse_of_objectIn? hobject
  have haddress : oneMaster.addressOf (Json.fieldOrNull request "clusterId") = .ok "10.0.0.7:8080" := by
    cases h : oneMaster.addressOf (Json.fieldOrNull request "clusterId") with
    | ok address =>
        rw [h, Except.toOption, beq_iff_eq, Option.some.injEq] at hcluster
        rw [hcluster]
    | error e =>
        rw [h] at hcluster
        cases hcluster
  obtain ⟨hpassed, sent, pairs, r, hgives, hcarries, hcontrol, -⟩ :=
    dispatch_forwards oneMaster hbody haddress []
  exact ⟨request, hbody, haddress, hpassed .add (by decide), sent, pairs, r, hgives, hcarries,
    hcontrol ("method", _) (by simp [controlPairs])⟩

end Topic

end SinkKeeper
