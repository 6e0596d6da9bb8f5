import SinkKeeper.Proofs.Operations

/-!
# Servers shared with others

Between any two calls other clients may make databases, tables and columns; nothing is dropped. An answer is true of
the moment at which the call reaches the server. What is there then is still there at the end, as long as calls are
done.
-/

namespace SinkKeeper

variable {σ : Type} {d : Dialect} {t : Table} {column : Column}

/-! ## Sights -/

/-- What is there at one moment: the tables of a database and the columns of one of them, each by every name that
the engine takes for it. -/
structure Sight where
  tables : String → Prop
  columns : String → Prop

namespace Sight

variable {u v w : Sight}

structure Within (v w : Sight) : Prop where
  tables : ∀ name, v.tables name → w.tables name
  columns : ∀ name, v.columns name → w.columns name

theorem Within.refl (v : Sight) : v.Within v := ⟨fun _ h => h, fun _ h => h⟩

theorem Within.trans (huv : u.Within v) (hvw : v.Within w) : u.Within w :=
  ⟨fun name h => hvw.tables name (huv.tables name h), fun name h => hvw.columns name (huv.columns name h)⟩

def HasTable (d : Dialect) (t : Table) (v : Sight) : Prop := v.tables (d.fold t.name.text)

def HasColumn (d : Dialect) (column : Column) (v : Sight) : Prop := v.columns (d.fold column.name.text)

end Sight

/-! ## Honest answers -/

/-- Describe rows of Hive tell, up to one that ends the columns, of columns that are there. -/
def Hive.Tells (present : String → Prop) (rows : List Row) : Prop :=
  ∃ body tail, rows = body ++ tail ∧
    (∀ row ∈ body, ∃ shown, row.Names 2 shown ∧ present (Text.lower (Text.strip shown))) ∧
    ∀ row ∈ tail.head?, Hive.Ends row

/-- An honest server on which others add what they like: `met` is what a call meets, `view` what is left by the calls
so far. A statement that makes a table makes all of it, unless the table is there. One that adds a column that is
there fails. -/
structure Shared [Server σ] (d : Dialect) (t : Table) (view : σ → Sight) (met : σ → Call → Sight) : Prop where
  grows : ∀ s c, (view s).Within (met s c)
  keeps : ∀ s c, (Server.respond s c).1.outcome = .done → c ≠ .rollback →
    (met s c).Within (view (Server.respond s c).2)
  table : ∀ s query rows, d.tableExists t.database t.name = .ok query →
    (Server.respond s (.query query.sql query.params)).1 = .rows rows →
    d.Answers rows t.name.text (met s (.query query.sql query.params)).tables
  column : ∀ s query rows, ∀ column ∈ t.columns, d.columnExists t.database t.name column.name = some query →
    (Server.respond s (.query query.sql query.params)).1 = .rows rows →
    (rows ≠ [] ↔ (met s (.query query.sql query.params)).HasColumn d column)
  describe : ∀ s sql rows, d = .hive → d.describeTable t.database t.name = .ok sql →
    (Server.respond s (.query sql [])).1 = .rows rows → Hive.Tells (met s (.query sql [])).columns rows
  makes : ∀ s sql, d.createTable t = .ok sql → (Server.respond s (.exec sql)).1.outcome = .done →
    ¬(met s (.exec sql)).HasTable d t →
      ∀ column ∈ t.columns, (view (Server.respond s (.exec sql)).2).HasColumn d column
  adds : ∀ s batch sql, batch.Sublist t.columns → d.addColumns t batch = .ok [sql] →
    (Server.respond s (.exec sql)).1.outcome = .done → ∀ column ∈ batch,
      ¬(met s (.exec sql)).HasColumn d column ∧ (view (Server.respond s (.exec sql)).2).HasColumn d column

/-! ## Runs -/

namespace Server

/-- One of the calls met a sight as `p` tells. -/
def Meets [Server σ] (met : σ → Call → Sight) (p : Sight → Prop) (s : σ) : List Event → Prop
  | [] => False
  | e :: events => p (met s e.call) ∨ Server.Meets met p (Server.respond s e.call).2 events

variable [Server σ] {met : σ → Call → Sight} {p : Sight → Prop} {s : σ} {as bs : List Event}

theorem meets_append : Server.Meets met p s (as ++ bs) ↔
    Server.Meets met p s as ∨ Server.Meets met p (Server.after s (as.map Event.call)) bs := by
  induction as generalizing s with
  | nil => simp [Server.Meets, Server.after]
  | cons e as ih => simp [Server.Meets, Server.after, ih, or_assoc]

theorem meets_later {link link' : Link σ} (hx : link.Extends as link') (h : Server.Meets met p link'.server bs) :
    Server.Meets met p link.server (as ++ bs) := by
  rw [hx.server] at h
  exact meets_append.mpr (.inr h)

theorem Answered.of_append (h : Server.Answered s (as ++ bs)) :
    Server.Answered s as ∧ Server.Answered (Server.after s (as.map Event.call)) bs := by
  induction as generalizing s with
  | nil => exact ⟨trivial, h⟩
  | cons e as ih =>
      obtain ⟨has, hbs⟩ := ih h.2
      exact ⟨⟨h.1, has⟩, hbs⟩

end Server

namespace Shared

open SinkKeeper.Task

variable [Server σ] {view : σ → Sight} {met : σ → Call → Sight} {s : σ} {new before after : List Event} {sql : String}
  {p : Sight → Prop} {c : Call} (hs : Shared d t view met)
include hs

theorem within_after (ha : Server.Answered s new) (hc : Clean new) :
    (view s).Within (view (Server.after s (new.map Event.call))) := by
  induction new generalizing s with
  | nil => exact .refl _
  | cons e new ih =>
      obtain ⟨⟨hdone, hback⟩, hrest⟩ := List.forall_mem_cons.mp hc
      have hkept := hs.keeps s e.call (ha.1.symm.trans hdone) hback
      exact ((hs.grows s e.call).trans hkept).trans (ih ha.2 hrest)

/-- What one of the calls met is there after them. -/
theorem of_meets (hp : ∀ v w : Sight, v.Within w → p v → p w) (ha : Server.Answered s new) (hc : Clean new)
    (h : Server.Meets met p s new) : p (view (Server.after s (new.map Event.call))) := by
  induction new generalizing s with
  | nil => exact h.elim
  | cons e new ih =>
      obtain ⟨⟨hdone, hback⟩, hrest⟩ := List.forall_mem_cons.mp hc
      rcases h with h | h
      · have hkept := hs.keeps s e.call (ha.1.symm.trans hdone) hback
        exact hp _ _ (hkept.trans (hs.within_after ha.2 hrest)) h
      · exact ih ha.2 hrest h

/-- What one of the calls met, or the next call meets, the next call meets. -/
theorem next_meets (hp : ∀ v w : Sight, v.Within w → p v → p w) (ha : Server.Answered s before) (hc : Clean before)
    {outcome : Outcome} (h : Server.Meets met p s (before ++ [⟨c, outcome⟩])) :
    p (met (Server.after s (before.map Event.call)) c) := by
  rcases Server.meets_append.mp h with h | h | h
  · exact hp _ _ (hs.grows _ c) (hs.of_meets hp ha hc h)
  · exact h
  · exact h.elim

end Shared

end SinkKeeper
