import SinkKeeper.Server.Script

/-!
# How tasks end

A task adds events to its link, ends with a result or a failure, and leaves a link. `Ends` says that all of
this is as a relation wants it. The rules below take it through every way in which tasks are built, so that
the steps of an operation are described one by one.

That the events tell the truth is part of `Ends`: each is a call to the server with the outcome of its answer,
and whether a transaction is open follows from them.
-/

namespace SinkKeeper

variable {σ : Type}

/-! ## The events of a stretch of work -/

def Answer.result : Answer → Except Failure (List Row)
  | .rows found => .ok found
  | .error f | .broken f => .error (.fault f)

def Server.after [Server σ] (s : σ) : List Call → σ
  | [] => s
  | c :: calls => Server.after (Server.respond s c).2 calls

/-- Whether the events are what the server answers to their calls, one after another. -/
def Server.Answered [Server σ] (s : σ) : List Event → Prop
  | [] => True
  | e :: events =>
    e.outcome = (Server.respond s e.call).1.outcome ∧ Server.Answered (Server.respond s e.call).2 events

/-- Whether a transaction is open after events. -/
def openAfter (open? : Bool) (events : List Event) : Bool :=
  events.foldl (fun now e => transactionAfter e.call e.outcome now) open?

/-- The link after a stretch of work that added events. -/
structure Link.Extends [Server σ] (link : Link σ) (new : List Event) (link' : Link σ) : Prop where
  events : link'.events = link.events ++ new
  answered : Server.Answered link.server new
  server : link'.server = Server.after link.server (new.map Event.call)
  inTransaction : link'.inTransaction = openAfter link.inTransaction new

theorem Server.after_append [Server σ] (s : σ) (as bs : List Call) :
    Server.after s (as ++ bs) = Server.after (Server.after s as) bs := by
  induction as generalizing s with
  | nil => rfl
  | cons c as ih => exact ih _

theorem Server.Answered.append [Server σ] {s : σ} {as bs : List Event} (ha : Server.Answered s as)
    (hb : Server.Answered (Server.after s (as.map Event.call)) bs) : Server.Answered s (as ++ bs) := by
  induction as generalizing s with
  | nil => exact hb
  | cons e as ih => exact ⟨ha.1, ih ha.2 hb⟩

@[simp] theorem openAfter_append (open? : Bool) (as bs : List Event) :
    openAfter open? (as ++ bs) = openAfter (openAfter open? as) bs := List.foldl_append

theorem Link.Extends.refl [Server σ] {link link' : Link σ} (he : link'.events = link.events)
    (hs : link'.server = link.server) (ht : link'.inTransaction = link.inTransaction) :
    link.Extends [] link' := ⟨by simp [he], trivial, hs, ht⟩

theorem Link.Extends.trans [Server σ] {link link₁ link₂ : Link σ} {as bs : List Event}
    (ha : link.Extends as link₁) (hb : link₁.Extends bs link₂) : link.Extends (as ++ bs) link₂ where
  events := by rw [hb.events, ha.events, List.append_assoc]
  answered := ha.answered.append (ha.server ▸ hb.answered)
  server := by rw [hb.server, ha.server, List.map_append, Server.after_append]
  inTransaction := by rw [hb.inTransaction, ha.inTransaction, openAfter_append]

def Link.told [Server σ] (link : Link σ) (c : Call) : Link σ where
  server := (Server.respond link.server c).2
  inTransaction := transactionAfter c (Server.respond link.server c).1.outcome link.inTransaction
  events := link.events ++ [⟨c, (Server.respond link.server c).1.outcome⟩]
  notes := link.notes

/-! ## Statements among events -/

namespace Task

def executed (sql : String) : Event := ⟨.exec sql, .done⟩

/-- The statements that were sent, in order, with how each ended. -/
def sent (events : List Event) : List (String × Outcome) :=
  events.filterMap fun e =>
    match e.call with
    | .exec sql => some (sql, e.outcome)
    | _ => none

@[simp] theorem sent_append (as bs : List Event) : sent (as ++ bs) = sent as ++ sent bs :=
  List.filterMap_append

@[simp] theorem sent_nil : sent [] = [] := rfl

@[simp] theorem sent_exec (sql : String) (outcome : Outcome) (events : List Event) :
    sent (⟨.exec sql, outcome⟩ :: events) = (sql, outcome) :: sent events := rfl

@[simp] theorem sent_start (outcome : Outcome) (events : List Event) :
    sent (⟨.start, outcome⟩ :: events) = sent events := rfl

@[simp] theorem sent_commit (outcome : Outcome) (events : List Event) :
    sent (⟨.commit, outcome⟩ :: events) = sent events := rfl

@[simp] theorem sent_rollback (outcome : Outcome) (events : List Event) :
    sent (⟨.rollback, outcome⟩ :: events) = sent events := rfl

@[simp] theorem sent_executed (statements : List String) :
    sent (statements.map executed) = statements.map fun sql => (sql, .done) := by
  induction statements with
  | nil => rfl
  | cons sql statements ih => simpa [executed] using ih

end Task

/-! ## Ends -/

namespace Task

variable {α β : Type}

def ended : Except Failure α → Link σ → EStateM.Result Failure (Link σ) α
  | .ok a, link => .ok a link
  | .error e, link => .error e link

theorem ended_inj {r r' : Except Failure α} {link link' : Link σ} (h : ended r link = ended r' link') :
    r = r' ∧ link = link' := by
  cases r <;> cases r' <;> cases h <;> exact ⟨rfl, rfl⟩

theorem bind_ended {work : Task σ α} {next : α → Task σ β} {r : Except Failure α} {link link' : Link σ}
    (h : work link = ended r link') : (work >>= next) link =
      match r with
      | .ok a => next a link'
      | .error e => .error e link' := by
  cases r <;> simp only [Bind.bind, EStateM.bind, h, ended]

variable [Server σ]

/-- Work over a link adds events, ends, and leaves a link, all as `Q` tells. -/
def Ends (work : Task σ α) (link : Link σ) (Q : List Event → Except Failure α → Link σ → Prop) : Prop :=
  ∃ new r link', work link = ended r link' ∧ link.Extends new link' ∧ Q new r link'

variable {link : Link σ} {work : Task σ α} {Q : List Event → Except Failure α → Link σ → Prop}

theorem Ends.of_ok {a : α} {link' : Link σ} (h : Ends work link Q) (hw : work link = .ok a link') :
    ∃ new, link.Extends new link' ∧ Q new (.ok a) link' := by
  obtain ⟨new, r, link₁, he, hx, hq⟩ := h
  cases r with
  | ok b =>
      cases hw.symm.trans he
      exact ⟨new, hx, hq⟩
  | error e => cases hw.symm.trans he

theorem Ends.of_error {e : Failure} {link' : Link σ} (h : Ends work link Q) (hw : work link = .error e link') :
    ∃ new, link.Extends new link' ∧ Q new (.error e) link' := by
  obtain ⟨new, r, link₁, he, hx, hq⟩ := h
  cases r with
  | ok b => cases hw.symm.trans he
  | error e' =>
      cases hw.symm.trans he
      exact ⟨new, hx, hq⟩

theorem Ends.mono {Q' : List Event → Except Failure α → Link σ → Prop} (h : Ends work link Q)
    (hq : ∀ new r link', link.Extends new link' → Q new r link' → Q' new r link') : Ends work link Q' := by
  obtain ⟨new, r, link', he, hx, hn⟩ := h
  exact ⟨new, r, link', he, hx, hq _ _ _ hx hn⟩

/-- Work takes one course, so what is told of it separately holds together. -/
theorem Ends.and {Q' : List Event → Except Failure α → Link σ → Prop} (h : Ends work link Q) (h' : Ends work link Q') :
    Ends work link fun new r link' => Q new r link' ∧ Q' new r link' := by
  obtain ⟨new, r, link₁, he, hx, hq⟩ := h
  obtain ⟨new', r', link₂, he', hx', hq'⟩ := h'
  obtain ⟨rfl, rfl⟩ := ended_inj (he.symm.trans he')
  obtain rfl : new = new' := List.append_cancel_left (hx.events.symm.trans hx'.events)
  exact ⟨new, r, link₁, he, hx, hq, hq'⟩

theorem Ends.pure {a : α} (h : Q [] (.ok a) link) : Ends (pure a : Task σ α) link Q :=
  ⟨[], .ok a, link, rfl, .refl rfl rfl rfl, h⟩

theorem Ends.throw {e : Failure} (h : Q [] (.error e) link) : Ends (throw e : Task σ α) link Q :=
  ⟨[], .error e, link, rfl, .refl rfl rfl rfl, h⟩

theorem Ends.bind {next : α → Task σ β} {Q : List Event → Except Failure β → Link σ → Prop}
    (h : Ends work link fun new r link' =>
      match r with
      | .ok a => Ends (next a) link' fun more r link'' => Q (new ++ more) r link''
      | .error e => Q new (.error e) link') : Ends (work >>= next) link Q := by
  obtain ⟨new, r, link₁, he, hx, hn⟩ := h
  cases r with
  | ok a =>
      obtain ⟨more, r, link₂, he₂, hm, hq⟩ := hn
      refine ⟨new ++ more, r, link₂, ?_, hx.trans hm, hq⟩
      simpa [Bind.bind, EStateM.bind, he, ended] using he₂
  | error e => exact ⟨new, .error e, link₁, by simp [Bind.bind, EStateM.bind, he, ended], hx, hn⟩

theorem Ends.onFault {kinds : FaultKind → Bool} {handle : Fault → Task σ α}
    (h : Ends work link fun new r link' =>
      (∀ f, r = .error (.fault f) → kinds f.kind = true →
        Ends (handle f) link' fun more r link'' => Q (new ++ more) r link'') ∧
      ((∀ f, r = .error (.fault f) → kinds f.kind = false) → Q new r link')) :
    Ends (onFault kinds work handle) link Q := by
  obtain ⟨new, r, link₁, he, hx, hh, hq⟩ := h
  by_cases hf : ∃ f, r = .error (.fault f) ∧ kinds f.kind = true
  · obtain ⟨f, rfl, hk⟩ := hf
    obtain ⟨more, r, link₂, he₂, hm, hq⟩ := hh f rfl hk
    refine ⟨new ++ more, r, link₂, ?_, hx.trans hm, hq⟩
    simpa [Task.onFault, he, ended, hk] using he₂
  · have hn : ∀ f, r = .error (.fault f) → kinds f.kind = false := by
      intro f hr
      exact Bool.eq_false_iff.mpr fun hk => hf ⟨f, hr, hk⟩
    refine ⟨new, r, link₁, ?_, hx, hq hn⟩
    cases r with
    | ok a => simp [Task.onFault, he, ended]
    | error e =>
        cases e with
        | fault f => simp [Task.onFault, he, ended, hn f rfl]
        | _ => simp [Task.onFault, he, ended]

/-- A failure after drivers' faults are told in other words. -/
def retold (tell : Fault → Failure) : Failure → Failure
  | .fault f => if f.kind.isDriver then tell f else .fault f
  | e => e

theorem retold_of_isDriver {tell : Fault → Failure} {f : Fault} (h : f.kind.isDriver = true) :
    retold tell (.fault f) = tell f := by simp [retold, h]

theorem retold_of_not_isDriver {tell : Fault → Failure} {f : Fault} (h : f.kind.isDriver = false) :
    retold tell (.fault f) = .fault f := by simp [retold, h]

theorem Ends.retold {tell : Fault → Failure}
    (h : Ends work link fun new r link' => Q new (r.mapError (retold tell)) link') :
    Ends (Task.onFault FaultKind.isDriver work fun f => MonadExcept.throw (tell f)) link Q := by
  refine .onFault (h.mono ?_)
  intro new r link' _ hq
  refine ⟨?_, fun hk => ?_⟩
  · rintro f rfl hk
    refine .throw ?_
    have htold : Task.retold tell (.fault f) = tell f := retold_of_isDriver hk
    rw [List.append_nil, ← htold]
    exact hq
  · cases r with
    | ok a => exact hq
    | error e =>
        cases e with
        | fault f =>
            have htold : Task.retold tell (.fault f) = .fault f := retold_of_not_isDriver (hk f rfl)
            rw [← htold]
            exact hq
        | _ => exact hq

theorem Ends.note {level : Level} {text : String} {Q : List Event → Except Failure Unit → Link σ → Prop}
    (h : ∀ link', link.Extends [] link' → Q [] (.ok ()) link') : Ends (note level text) link Q :=
  ⟨[], .ok (), _, rfl, .refl rfl rfl rfl, h _ (.refl rfl rfl rfl)⟩

theorem call_eq (c : Call) (link : Link σ) :
    Task.call c link = ended (Server.respond link.server c).1.result (link.told c) := by
  have hc : Task.call c link =
      (match (Server.respond link.server c).1 with
        | .rows found => (EStateM.pure found : Task σ (List Row))
        | .error f | .broken f => EStateM.throw (Failure.fault f)) (link.told c) := rfl
  rw [hc]
  cases (Server.respond link.server c).1 <;> rfl

theorem Ends.call {c : Call} {Q : List Event → Except Failure (List Row) → Link σ → Prop}
    (done : ∀ rows link', (Server.respond link.server c).1 = .rows rows → link.Extends [⟨c, .done⟩] link' →
      Q [⟨c, .done⟩] (.ok rows) link')
    (failed : ∀ f outcome link', (Server.respond link.server c).1.result = .error (.fault f) →
      outcome ≠ .done → link.Extends [⟨c, outcome⟩] link' → Q [⟨c, outcome⟩] (.error (.fault f)) link') :
    Ends (call c) link Q := by
  have hx : link.Extends [⟨c, (Server.respond link.server c).1.outcome⟩] (link.told c) :=
    ⟨rfl, ⟨rfl, trivial⟩, rfl, rfl⟩
  refine ⟨_, _, _, call_eq c link, hx, ?_⟩
  cases ha : (Server.respond link.server c).1 with
  | rows found => exact done found _ ha (by rwa [ha] at hx)
  | error f => exact failed f _ _ (by rw [ha]; rfl) (by simp [Answer.outcome]) (by rwa [ha] at hx)
  | broken f => exact failed f _ _ (by rw [ha]; rfl) (by simp [Answer.outcome]) (by rwa [ha] at hx)

theorem Ends.perform {c : Call} {Q : List Event → Except Failure Unit → Link σ → Prop}
    (done : ∀ link', link.Extends [⟨c, .done⟩] link' → Q [⟨c, .done⟩] (.ok ()) link')
    (failed : ∀ f outcome link', (Server.respond link.server c).1.result = .error (.fault f) →
      outcome ≠ .done → link.Extends [⟨c, outcome⟩] link' → Q [⟨c, outcome⟩] (.error (.fault f)) link') :
    Ends (perform c) link Q :=
  .bind (.call (fun _ link' _ hx => .pure (done link' hx)) failed)

theorem Ends.get {Q : List Event → Except Failure (Link σ) → Link σ → Prop} (h : Q [] (.ok link) link) :
    Ends (get : Task σ (Link σ)) link Q := ⟨[], .ok link, link, rfl, .refl rfl rfl rfl, h⟩

end Task

/-! ## Servers that fail as drivers do -/

/-- Whatever calls are made, the faults that the server answers with are drivers' faults. -/
def Server.FailsAsDriver [Server σ] (s : σ) : Prop :=
  ∀ calls c f, (Server.respond (Server.after s calls) c).1.result = .error (.fault f) → f.kind.isDriver = true

/-- A server faults at a call that comes after the calls of other events. -/
def Server.Faults [Server σ] (s : σ) (before : List Event) (c : Call) (f : Fault) : Prop :=
  (Server.respond (Server.after s (before.map Event.call)) c).1.result = .error (.fault f)

theorem Server.Faults.later [Server σ] {link link' : Link σ} {new before : List Event} {c : Call} {f : Fault}
    (h : Server.Faults link'.server before c f) (hx : link.Extends new link') :
    Server.Faults link.server (new ++ before) c f := by
  rw [Server.Faults, List.map_append, Server.after_append, ← hx.server]
  exact h

theorem Link.Extends.faults [Server σ] {link link' : Link σ} {new : List Event} {c : Call} {f : Fault}
    (hx : link.Extends new link') (h : (Server.respond link'.server c).1.result = .error (.fault f)) :
    Server.Faults link.server new c f := by
  rw [Server.Faults, ← hx.server]
  exact h

theorem Server.FailsAsDriver.faults [Server σ] {s : σ} (h : Server.FailsAsDriver s) {before : List Event} {c : Call}
    {f : Fault} (hf : Server.Faults s before c f) : f.kind.isDriver = true := h _ c f hf

theorem Server.FailsAsDriver.now [Server σ] {s : σ} (h : Server.FailsAsDriver s) {c : Call} {f : Fault}
    (hf : (Server.respond s c).1.result = .error (.fault f)) : f.kind.isDriver = true := h [] c f hf

theorem Server.FailsAsDriver.later [Server σ] {link link' : Link σ} {new : List Event}
    (h : Server.FailsAsDriver link.server) (hx : link.Extends new link') :
    Server.FailsAsDriver link'.server := by
  intro calls c f hf
  rw [hx.server, ← Server.after_append] at hf
  exact h _ c f hf

theorem Script.respond_keeps (s : Script) (c : Call) :
    (Server.respond s c).2.rules = s.rules ∧ (Server.respond s c).2.breakages = s.breakages := by
  simp only [Server.respond, Script.respond]
  split
  · exact ⟨rfl, rfl⟩
  · cases c <;> exact ⟨rfl, rfl⟩

theorem Script.after_keeps (s : Script) (calls : List Call) :
    (Server.after s calls).rules = s.rules ∧ (Server.after s calls).breakages = s.breakages := by
  induction calls generalizing s with
  | nil => exact ⟨rfl, rfl⟩
  | cons c calls ih =>
      obtain ⟨hr, hb⟩ := s.respond_keeps c
      rw [← hr, ← hb]
      exact ih _

theorem Script.failsAsDriver {s : Script} (hb : ∀ b ∈ s.breakages, b.fault.kind.isDriver = true)
    (hr : ∀ rule ∈ s.rules, ∀ f, rule.answer.result = .error (.fault f) → f.kind.isDriver = true) :
    Server.FailsAsDriver s := by
  intro calls c f hf
  obtain ⟨hrules, hbreakages⟩ := s.after_keeps calls
  generalize Server.after s calls = s' at hf hrules hbreakages
  simp only [Server.respond, Script.respond] at hf
  split at hf
  · rename_i b hfind
    cases hf
    exact hb b (hbreakages ▸ List.mem_of_find?_eq_some hfind)
  · cases c with
    | query sql params =>
        simp only [Script.answerQuery] at hf
        generalize hfind : List.find? _ _ = found at hf
        cases found with
        | none => cases hf
        | some rule => exact hr rule (hrules ▸ List.mem_of_find?_eq_some hfind) f hf
    | _ => cases hf

end SinkKeeper
