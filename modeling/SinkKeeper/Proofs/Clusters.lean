import SinkKeeper.Proofs.BearerTokens
import SinkKeeper.Proofs.Forwarding
import SinkKeeper.Topic.Configuration

/-!
# Which master a cluster has

A cluster is looked up by its number, without the blanks around it. With a single master it may be left out. Requests
go to configured addresses only, but not all of them are sound: a single master is asked even if it has no address, and
a number that is configured with blanks around it is looked up without them.
-/

namespace SinkKeeper

/-! ## Blanks -/

theorem Text.strip_eq_empty_iff {s : String} : strip s = "" ↔ isAllBlank s = true := by
  rw [← String.toList_inj, strip, String.toList_ofList, String.toList_empty, isAllBlank, List.all_eq_true]
  constructor
  · intro h
    obtain ⟨left, right, hs, hleft, hright⟩ := trimWith_between isBlank s.toList
    rw [h, List.append_nil] at hs
    rw [hs]
    exact fun c hc => (List.mem_append.mp hc).elim (hleft c) (hright c)
  · exact trimWith_of_all

namespace Topic

open Exchange (Gives)

variable {m : Masters} {cluster : Json} {address name : String} {fields : Json.Fields} {replies : List Reply}

/-! ## Looking clusters up -/

/-- No cluster is named. -/
def Unnamed (cluster : Json) : Prop := cluster.kind = .null ∨ Text.isAllBlank cluster.text = true

/-- What a cluster stands for: the address of its number, or the only address if no cluster is named. -/
inductive Masters.Resolves (m : Masters) (cluster : Json) (address : String) : Prop
  | sole {name : String} (hunnamed : Unnamed cluster) (hnodes : m.nodes = [(name, address)])
  | named (hnamed : ¬Unnamed cluster) (hnode : (Text.strip cluster.text, address) ∈ m.nodes) (hne : address ≠ "")

theorem unnamed_iff : (cluster.isNull || Text.strip cluster.text = "") = true ↔ Unnamed cluster := by
  rw [Bool.or_eq_true, decide_eq_true_iff, Json.isNull_iff, Text.strip_eq_empty_iff, Unnamed]

theorem Masters.addressOf_unnamed (hunnamed : Unnamed cluster) :
    m.addressOf cluster = .ok address ↔ ∃ name, m.nodes = [(name, address)] := by
  rw [Masters.addressOf, if_pos (unnamed_iff.mpr hunnamed)]
  split
  next name sole hnodes => simp [hnodes]
  next hnodes =>
    refine ⟨fun h => (by cases h), ?_⟩
    rintro ⟨name, hsole⟩
    exact absurd hsole (hnodes name address)

theorem Masters.addressOf_named (hnamed : ¬Unnamed cluster) :
    m.addressOf cluster = .ok address ↔ m.nodes.lookup (Text.strip cluster.text) = some address ∧ address ≠ "" := by
  rw [Masters.addressOf, if_neg (mt unnamed_iff.mp hnamed)]
  split
  next found hfound =>
    rw [hfound]
    split
    next hempty =>
      refine ⟨fun h => (by cases h), ?_⟩
      rintro ⟨hsome, hne⟩
      cases hsome
      exact absurd hempty hne
    next hne =>
      rw [Except.ok.injEq, Option.some.injEq]
      refine ⟨?_, And.left⟩
      rintro rfl
      exact ⟨rfl, hne⟩
  next hnone =>
    rw [hnone]
    exact ⟨fun h => (by cases h), fun h => (by cases h.1)⟩

theorem Masters.addressOf_eq_ok (hnodup : (m.nodes.map (·.1)).Nodup) :
    m.addressOf cluster = .ok address ↔ m.Resolves cluster address := by
  by_cases hcluster : Unnamed cluster
  · rw [addressOf_unnamed hcluster]
    constructor
    · rintro ⟨name, hnodes⟩
      exact .sole hcluster hnodes
    · rintro (⟨-, hnodes⟩ | ⟨hnamed, -, -⟩)
      · exact ⟨_, hnodes⟩
      · exact absurd hcluster hnamed
  · rw [addressOf_named hcluster, Entries.lookup_eq_some_iff hnodup]
    constructor
    · rintro ⟨hnode, hne⟩
      exact .named hcluster hnode hne
    · rintro (⟨hunnamed, -⟩ | ⟨-, hnode, hne⟩)
      · exact absurd hunnamed hcluster
      · exact ⟨hnode, hne⟩

/-- The request carries fields to the master that their cluster stands for. -/
def Masters.Directs (m : Masters) (q : Request) : Prop :=
  ∃ fields address, m.addressOf (Json.fieldOrNull fields "clusterId") = .ok address ∧ q = m.requestTo address fields

/-- On any replies the work ends, and each request it sends goes to the master of its cluster. -/
def Directed {α : Type} (m : Masters) (replies : List Reply) (work : Exchange α) : Prop :=
  ∃ sent r, Gives work replies sent r ∧ ∀ q ∈ sent, m.Directs q

namespace Cloning

variable {c : Cloning} {broker : Json.Fields} {targets : List Json} {sent : List Request} {r : Except Failure Verdict}

end Cloning

theorem Directed.pure {α : Type} {a : α} : Directed m replies (pure a) := ⟨[], _, .pure, List.forall_mem_nil _⟩

theorem Directed.afterNote {α : Type} {level : Level} {text : String} {next : Unit → Exchange α}
    (h : Directed m replies (next ())) : Directed m replies (Exchange.note level text >>= next) := by
  obtain ⟨sent, r, hgives, hdirects⟩ := h
  exact ⟨sent, r, hgives.afterNote, hdirects⟩

end Topic

end SinkKeeper
