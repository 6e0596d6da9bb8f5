import SinkKeeper.Proofs.Clones

/-!
# What a lookup decides

Two operations look a topic up: one tells whether it can be written to, the other clones it. Both read the brokers in
the answer and nothing else, so that an error that the master tells beside them is not seen.
-/

namespace SinkKeeper.Topic

open Exchange (Gives)

variable {m : Masters} {address topic : String} {cluster : Json} {request answer broker : Json.Fields}
  {replies : List Reply} {reply : Reply} {known : Method} {body : Option String}

/-! ## Lookups -/

/-- The topic that an operation looks up, and the cluster, if its parameters are legal. -/
def Method.lookup? (request : Json.Fields) : Method → Option (String × Json)
  | .queryCanWrite =>
    let cluster := Json.fieldOrNull request "clusterId"
    match Json.fieldOrNull request "topicName" with
    | .string topic => if Text.isAllBlank topic || cluster.isNull then none else some (Text.strip topic, cluster)
    | _ => none
  | .clone => (Cloning.ofRequest? request).map fun c => (c.source, c.cluster)
  | _ => none

theorem run_of_canWrite_lookup (h : Method.queryCanWrite.lookup? request = some (topic, cluster)) :
    Method.queryCanWrite.run m request = canWrite m topic cluster := by
  unfold Method.lookup? at h
  dsimp only at h
  split at h
  next name hname =>
    split at h
    · cases h
    next hlegal =>
      obtain ⟨rfl, rfl⟩ := Prod.mk.inj (Option.some.inj h)
      simp only [Method.run, askCanWrite, hname, if_neg hlegal]
  next => cases h

theorem brokers_of_shows (h : reply.Shows answer) :
    reply.brokers = (brokersOf answer).mapError .shape >>= fun brokers => .ok (.ok brokers) := by
  rw [Reply.brokers, heard_answer_eq_ok.mpr h]
  rfl

theorem permission_of_shows (h : reply.Shows answer) :
    reply.permission topic = (brokersOf answer).mapError .shape >>= permissionOf topic := by
  rw [Reply.permission, brokers_of_shows h]
  cases brokersOf answer <;> rfl

theorem Cloning.Reached.ne_nil {c : Cloning} {targets : List Json} {sent : List Request} {r : Except Failure Verdict}
    (h : Cloning.Reached m address c broker targets replies sent r) (hne : targets ≠ []) :
    ∃ addition rest, sent = addition :: rest := by
  cases h with
  | done => exact absurd rfl hne
  | next | stopped => exact ⟨_, _, rfl⟩
  | balked hcarried => exact absurd (canCarry_plain _) (Bool.eq_false_iff.mp hcarried)

/-- The usual request looks its topic up at the only master. -/
theorem canWriteBody_looks :
    ∃ request cluster, Json.parse ((some canWriteBody).getD "") = .ok (.object request) ∧
      Method.queryCanWrite.lookup? request = some ("t", cluster) ∧
      oneMaster.addressOf cluster = .ok "10.0.0.7:8080" := by
  have hcheck : (objectIn? (some canWriteBody)).any (fun request =>
      (Method.queryCanWrite.lookup? request).any fun p =>
        p.1 == "t" && (oneMaster.addressOf p.2).toOption == some "10.0.0.7:8080") = true := by
    decide +kernel
  obtain ⟨request, hobject, hlooks⟩ := (Option.any_eq_true _ _).mp hcheck
  obtain ⟨⟨topic, cluster⟩, hlookup, hpair⟩ := (Option.any_eq_true _ _).mp hlooks
  obtain ⟨htopic, hcluster⟩ := Bool.and_eq_true_iff.mp hpair
  obtain rfl := beq_iff_eq.mp htopic
  refine ⟨request, cluster, parse_of_objectIn? hobject, hlookup, ?_⟩
  cases h : oneMaster.addressOf cluster with
  | ok address =>
      rw [h, Except.toOption, beq_iff_eq, Option.some.injEq] at hcluster
      rw [hcluster]
  | error e =>
      rw [h] at hcluster
      cases hcluster

/-- The answer on a page. -/
def Reply.answer? : Reply → Option Json.Fields
  | .page text _ => objectIn? (some text)
  | .failed _ => none

theorem shows_of_answer? (h : reply.answer? = some answer) : reply.Shows answer := by
  cases reply with
  | page text status =>
      rw [Reply.answer?] at h
      have hparse := parse_of_objectIn? h
      rw [Option.getD_some] at hparse
      exact ⟨text, status, rfl, hparse⟩
  | failed f => cases h

end SinkKeeper.Topic
