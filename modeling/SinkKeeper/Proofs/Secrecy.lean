import SinkKeeper.Proofs.Ends
import SinkKeeper.Sink

/-!
# Passwords stay hidden

A password is handed over when an engine is made, and nowhere else. Two runs of the same operations that differ in
the password have the same outcomes and notes, and events that differ in the password at most, on every server whose
answers do not depend on it.
-/

namespace SinkKeeper

/-! ## What is left without passwords -/

def Address.hidden (a : Address) : Address := { a with password := none }

def EngineOptions.hidden : EngineOptions → EngineOptions
  | .opener a seconds => .opener a.hidden seconds
  | options => options

/-- A call without the password that it hands over. -/
def Call.hidden : Call → Call
  | .createEngine driver a options => .createEngine driver a.hidden options.hidden
  | c => c

def Event.hidden (e : Event) : Event := ⟨e.call.hidden, e.outcome⟩

theorem Address.redacted_hidden (a : Address) : a.hidden.redacted = a.redacted := rfl

theorem Dialect.engineOptions_hidden (d : Dialect) {a b : Address} (h : a.hidden = b.hidden)
    (connect statement : Number.Numeral) :
    (d.engineOptions a connect statement).hidden = (d.engineOptions b connect statement).hidden := by
  cases d with
  | hive => exact congrArg (EngineOptions.opener · _) h
  | _ => rfl

theorem transactionAfter_hidden (c : Call) (outcome : Outcome) (open? : Bool) :
    transactionAfter c.hidden outcome open? = transactionAfter c outcome open? := by
  cases c <;> rfl

/-- A server whose answers do not depend on passwords. -/
def Server.Blind (σ : Type) [Server σ] : Prop :=
  ∀ (s : σ) (c c' : Call), c.hidden = c'.hidden → Server.respond s c = Server.respond s c'

theorem Script.blind : Server.Blind Script := by
  intro s c c' h
  have hsame : ∀ c : Call, Script.respond s c.hidden = Script.respond s c := by
    intro c
    cases c <;> rfl
  exact (hsame c).symm.trans ((congrArg (Script.respond s) h).trans (hsame c'))

/-! ## Two runs side by side -/

variable {σ : Type} {α β : Type}

/-- Links that differ in the passwords of their events at most. -/
structure Link.Alike (link link' : Link σ) : Prop where
  server : link.server = link'.server
  inTransaction : link.inTransaction = link'.inTransaction
  events : link.events.map Event.hidden = link'.events.map Event.hidden
  notes : link.notes = link'.notes

theorem Link.Alike.refl (link : Link σ) : link.Alike link := ⟨rfl, rfl, rfl, rfl⟩

namespace Task

/-- From links that are alike the works end the same way, and leave links that are alike. -/
def Agree (work work' : Task σ α) : Prop :=
  ∀ link link' : Link σ, link.Alike link' →
    ∃ r after after', work link = ended r after ∧ work' link' = ended r after' ∧ after.Alike after'

namespace Agree

variable {work work' : Task σ α}

theorem pure {a : α} : Agree (Pure.pure a : Task σ α) (Pure.pure a) :=
  fun link link' h => ⟨.ok a, link, link', rfl, rfl, h⟩

theorem throw {e : Failure} : Agree (MonadExcept.throw e : Task σ α) (MonadExcept.throw e) :=
  fun link link' h => ⟨.error e, link, link', rfl, rfl, h⟩

theorem lift {x : Except Failure α} : Agree (liftM x : Task σ α) (liftM x) := by
  cases x with
  | ok a => exact .pure
  | error e => exact .throw

/-- Lifted results that fail alike, or are as `same` tells. -/
theorem liftMap {γ : Type} {x x' : Except Failure β} {same : β → γ} {next next' : β → Task σ α}
    (hx : x.map same = x'.map same) (hnext : ∀ a a', same a = same a' → Agree (next a) (next' a')) :
    Agree (liftM x >>= next) (liftM x' >>= next') := by
  cases x with
  | ok a =>
      cases x' with
      | ok a' => exact hnext a a' (Except.ok.inj hx)
      | error e' => cases hx
  | error e =>
      cases x' with
      | ok a' => cases hx
      | error e' =>
          cases hx
          exact .throw

theorem liftSink {x : Except SinkError α} : Agree (liftM x : Task σ α) (liftM x) := by
  cases x with
  | ok a => exact .pure
  | error e => exact .throw

theorem liftShape {x : Except ShapeError α} : Agree (liftM x : Task σ α) (liftM x) := by
  cases x with
  | ok a => exact .pure
  | error e => exact .throw

theorem bind {next next' : α → Task σ β} (hwork : Agree work work') (hnext : ∀ a, Agree (next a) (next' a)) :
    Agree (work >>= next) (work' >>= next') := by
  intro link link' h
  obtain ⟨r, after, after', hrun, hrun', halike⟩ := hwork link link' h
  cases r with
  | ok a =>
      obtain ⟨r, last, last', hlast, hlast', halike⟩ := hnext a after after' halike
      refine ⟨r, last, last', ?_, ?_, halike⟩
      · simpa [Bind.bind, EStateM.bind, hrun, ended] using hlast
      · simpa [Bind.bind, EStateM.bind, hrun', ended] using hlast'
  | error e =>
      refine ⟨.error e, after, after', ?_, ?_, halike⟩
      · simp [Bind.bind, EStateM.bind, hrun, ended]
      · simp [Bind.bind, EStateM.bind, hrun', ended]

theorem mapM {f : α → Task σ β} (h : ∀ a, Agree (f a) (f a)) (as : List α) :
    Agree (as.mapM f) (as.mapM f) := by
  induction as with
  | nil => exact .pure
  | cons a as ih =>
      rw [List.mapM_cons]
      exact (h a).bind fun _ => ih.bind fun _ => .pure

theorem read {next next' : Link σ → Task σ α}
    (h : ∀ link link', link.Alike link' → Agree (next link) (next' link')) :
    Agree (get >>= next) (get >>= next') :=
  fun link link' halike => h link link' halike link link' halike

theorem note {level : Level} {text : String} : Agree (Task.note level text : Task σ Unit) (Task.note level text) :=
  fun _ _ h => ⟨.ok (), _, _, rfl, rfl, h.server, h.inTransaction, h.events, congrArg (· ++ _) h.notes⟩

theorem onFault {kinds : FaultKind → Bool} {handle handle' : Fault → Task σ α} (hwork : Agree work work')
    (hhandle : ∀ f, Agree (handle f) (handle' f)) :
    Agree (Task.onFault kinds work handle) (Task.onFault kinds work' handle') := by
  intro link link' h
  obtain ⟨r, after, after', hrun, hrun', halike⟩ := hwork link link' h
  unfold Task.onFault
  rw [hrun, hrun']
  cases r with
  | ok a => exact ⟨.ok a, after, after', rfl, rfl, halike⟩
  | error e =>
      cases e with
      | fault f =>
          by_cases hk : kinds f.kind = true
          · simpa only [ended, hk, if_true] using hhandle f after after' halike
          · exact ⟨.error (.fault f), after, after', by simp [ended, hk], by simp [ended, hk], halike⟩
      | _ => exact ⟨.error _, after, after', rfl, rfl, halike⟩

theorem andFinally {cleanup cleanup' : Task σ Unit} (hwork : Agree work work') (hcleanup : Agree cleanup cleanup') :
    Agree (Task.andFinally work cleanup) (Task.andFinally work' cleanup') := by
  intro link link' h
  obtain ⟨r, after, after', hrun, hrun', halike⟩ := hwork link link' h
  obtain ⟨c, last, last', hlast, hlast', halike⟩ := hcleanup after after' halike
  unfold Task.andFinally
  rw [hrun, hrun']
  cases r with
  | ok a =>
      cases c with
      | ok _ => exact ⟨.ok a, last, last', by simp [ended, hlast], by simp [ended, hlast'], halike⟩
      | error e => exact ⟨.error e, last, last', by simp [ended, hlast], by simp [ended, hlast'], halike⟩
  | error e =>
      cases c with
      | ok _ => exact ⟨.error e, last, last', by simp [ended, hlast], by simp [ended, hlast'], halike⟩
      | error e' => exact ⟨.error e', last, last', by simp [ended, hlast], by simp [ended, hlast'], halike⟩

theorem report {description : String} {work work' : Task σ Report} (hwork : Agree work work') :
    Agree (Task.report description work) (Task.report description work') := by
  intro link link' h
  obtain ⟨r, after, after', hrun, hrun', halike⟩ := hwork link link' h
  unfold Task.report
  rw [hrun, hrun']
  cases r with
  | ok a => exact ⟨.ok a, after, after', rfl, rfl, halike⟩
  | error e =>
      cases e with
      | sink e => exact bind note (fun _ => pure) after after' halike
      | _ => exact ⟨.error _, after, after', rfl, rfl, halike⟩

end Agree

/-! ## Calls and statements -/

section Tasks

variable [Server σ] {d : Dialect} {t : Table} (hblind : Server.Blind σ)
include hblind

theorem call_agree {c c' : Call} (hc : c.hidden = c'.hidden) : Agree (call c : Task σ (List Row)) (call c') := by
  intro link link' h
  have hanswer : Server.respond link.server c = Server.respond link'.server c' := by
    rw [h.server]
    exact hblind _ _ _ hc
  have hrun : call c link = ended (Server.respond link'.server c').1.result (link.told c) := by
    rw [← hanswer]
    exact call_eq c link
  refine ⟨_, _, _, hrun, call_eq c' link', ⟨congrArg Prod.snd hanswer, ?_, ?_, h.notes⟩⟩
  · simp only [Link.told, hanswer, h.inTransaction]
    rw [← transactionAfter_hidden, hc, transactionAfter_hidden]
  · simp [Link.told, Event.hidden, hc, hanswer, h.events]

theorem perform_agree {c c' : Call} (hc : c.hidden = c'.hidden) : Agree (perform c : Task σ Unit) (perform c') :=
  (call_agree hblind hc).bind fun _ => .pure

theorem rollbackQuietly_agree : Agree (rollbackQuietly : Task σ Unit) rollbackQuietly :=
  .onFault (perform_agree hblind rfl) fun _ => .note

theorem runAndCommit_agree (sql : String) (index : Option Int) :
    Agree (runAndCommit sql index : Task σ Unit) (runAndCommit sql index) :=
  .onFault ((perform_agree hblind rfl).bind fun _ => perform_agree hblind rfl) fun _ =>
    (rollbackQuietly_agree hblind).bind fun _ => .throw

theorem execute_agree (sql : String) : Agree (execute sql : Task σ Unit) (execute sql) :=
  (runAndCommit_agree hblind sql none).bind fun _ => .note

theorem executeEachFrom_agree (statements : List String) (index : Nat) :
    Agree (executeEachFrom index statements : Task σ Unit) (executeEachFrom index statements) := by
  induction statements generalizing index with
  | nil => exact .pure
  | cons sql statements ih => exact (runAndCommit_agree hblind sql _).bind fun _ => ih _

theorem sendFrom_agree (statements : List String) (index : Nat) :
    Agree (sendFrom index statements : Task σ Unit) (sendFrom index statements) := by
  induction statements generalizing index with
  | nil => exact .pure
  | cons sql statements ih => exact (Agree.onFault (perform_agree hblind rfl) fun _ => .throw).bind fun _ => ih _

theorem openTransaction_agree : Agree (openTransaction : Task σ Unit) openTransaction := by
  refine .read fun link link' h => ?_
  rw [h.inTransaction]
  split
  · exact (perform_agree hblind rfl).bind fun _ => perform_agree hblind rfl
  · exact perform_agree hblind rfl

theorem abandon_agree (e : Failure) : Agree (abandon e : Task σ Unit) (abandon e) := by
  intro link link' h
  obtain ⟨r, after, after', hrun, hrun', halike⟩ := perform_agree hblind (Eq.refl Call.rollback.hidden) link link' h
  unfold abandon
  rw [hrun, hrun']
  cases r with
  | ok _ => exact ⟨.error e, after, after', rfl, rfl, halike⟩
  | error e' => exact ⟨.error _, after, after', rfl, rfl, halike⟩

theorem inTransaction_agree {work : Task σ Unit} (hwork : Agree work work) :
    Agree (inTransaction work) (inTransaction work) := by
  intro link link' h
  obtain ⟨r, after, after', hrun, hrun', halike⟩ := hwork link link' h
  unfold inTransaction
  rw [hrun, hrun']
  cases r with
  | ok _ => exact perform_agree hblind rfl after after' halike
  | error e => exact abandon_agree hblind e after after' halike

theorem executeBatch_agree (statements : List String) (together : Bool) :
    Agree (executeBatch statements together : Task σ Unit) (executeBatch statements together) := by
  unfold executeBatch
  split
  · exact .pure
  · split
    · refine Agree.bind (.onFault ?_ fun _ => .throw) fun _ => .note
      exact (openTransaction_agree hblind).bind fun _ => inTransaction_agree hblind (sendFrom_agree hblind _ _)
    · exact (executeEachFrom_agree hblind _ _).bind fun _ => .note

/-! ## Questions to the catalog -/

theorem fetch_agree (sql : String) (params : Json.Fields) :
    Agree (fetch d sql params : Task σ (List Row)) (fetch d sql params) :=
  .onFault (call_agree hblind rfl) fun _ => .throw

theorem databaseExists_agree (database : Json) :
    Agree (databaseExists d database : Task σ Bool) (databaseExists d database) :=
  Agree.liftSink.bind fun _ => (fetch_agree hblind _ _).bind fun _ => Agree.liftShape.bind fun _ =>
    Agree.note.bind fun _ => .pure

theorem tableExists_agree (database table : Json) :
    Agree (tableExists d database table : Task σ Bool) (tableExists d database table) :=
  Agree.liftSink.bind fun _ => Agree.liftSink.bind fun _ => Agree.lift.bind fun _ =>
    (fetch_agree hblind _ _).bind fun _ => Agree.liftShape.bind fun _ => Agree.note.bind fun _ => .pure

theorem columns_agree (database table : Json) :
    Agree (columns d database table : Task σ (List Column)) (columns d database table) :=
  Agree.lift.bind fun _ => (fetch_agree hblind _ _).bind fun _ => .liftShape

theorem columnExists_agree (database table column : Json) :
    Agree (columnExists d database table column : Task σ Bool) (columnExists d database table column) := by
  refine Agree.liftSink.bind fun name => ?_
  dsimp only
  split
  · exact (fetch_agree hblind _ _).bind fun _ => Agree.pure.bind fun _ => Agree.note.bind fun _ => .pure
  · exact (columns_agree hblind _ _).bind fun _ => Agree.pure.bind fun _ => Agree.note.bind fun _ => .pure

theorem tables_agree (database : Json) : Agree (tables d database : Task σ (List String)) (tables d database) :=
  Agree.liftSink.bind fun _ => Agree.lift.bind fun _ => (fetch_agree hblind _ _).bind fun _ =>
    (Agree.mapM (fun _ => .liftShape) _).bind fun _ => .pure

theorem missingOf_agree (columns : List Column) :
    Agree (missingOf d t columns : Task σ (List Column)) (missingOf d t columns) := by
  induction columns with
  | nil => exact .pure
  | cons c columns ih => exact (columnExists_agree hblind _ _ _).bind fun _ => ih.bind fun _ => .pure

/-! ## Operations -/

theorem createDatabase_agree (database : Json) :
    Agree (createDatabase d database : Task σ Report) (createDatabase d database) := by
  refine (databaseExists_agree hblind database).bind fun found => ?_
  split
  · exact Agree.note.bind fun _ => .pure
  · exact Agree.lift.bind fun _ => (execute_agree hblind _).bind fun _ => Agree.note.bind fun _ => .pure

theorem createTable_agree : Agree (createTable d t : Task σ Report) (createTable d t) := by
  refine (tableExists_agree hblind _ _).bind fun found => ?_
  dsimp only
  split
  · exact Agree.note.bind fun _ => Agree.pure.bind fun _ => (columns_agree hblind _ _).bind fun _ => .pure
  · exact Agree.lift.bind fun _ => (execute_agree hblind _).bind fun _ => Agree.note.bind fun _ =>
      Agree.pure.bind fun _ => (columns_agree hblind _ _).bind fun _ => .pure

theorem addColumns_agree : Agree (addColumns d t : Task σ Report) (addColumns d t) := by
  refine (missingOf_agree hblind _).bind fun missing => ?_
  split
  · exact Agree.note.bind fun _ => .pure
  · exact Agree.lift.bind fun _ => (executeBatch_agree hblind _ _).bind fun _ => Agree.note.bind fun _ => .pure

theorem ensureTable_agree : Agree (ensureTable d t : Task σ Report) (ensureTable d t) := by
  refine (createDatabase_agree hblind _).bind fun database => (createTable_agree hblind).bind fun table => ?_
  dsimp only
  split
  · exact (addColumns_agree hblind).bind fun _ => Agree.pure.bind fun _ =>
      (columns_agree hblind _ _).bind fun _ => .pure
  · exact Agree.pure.bind fun _ => (columns_agree hblind _ _).bind fun _ => .pure

theorem run_agree (operation : Operation) : Agree (operation.run d : Task σ Report) (operation.run d) := by
  cases operation with
  | createDatabase database => exact createDatabase_agree hblind database
  | createTable t => exact createTable_agree hblind
  | addColumns t => exact addColumns_agree hblind
  | ensureTable t => exact ensureTable_agree hblind
  | listTables database => exact (tables_agree hblind database).bind fun _ => .pure
  | listColumns database table => exact (columns_agree hblind database table).bind fun _ => .pure

end Tasks

end Task

/-! ## Sinks -/

namespace Sink

open SinkKeeper.Task (Agree)

def withPassword (s : Sink) (password : Option String) : Sink := { s with password }

/-- Does operations one after another on one server, whatever each ends with. -/
def runAll [Server σ] (s : Sink) (env : Environment) :
    List Operation → Link σ → List (Except Failure Report) × Link σ
  | [], link => ([], link)
  | operation :: rest, link =>
    let (outcome, after) : Except Failure Report × Link σ :=
      match s.run env operation link with
      | .ok report after => (.ok report, after)
      | .error e after => (.error e, after)
    let (outcomes, last) := runAll s env rest after
    (outcome :: outcomes, last)

theorem address_hidden (s : Sink) (p q : Option String) :
    (s.withPassword p).address.map Address.hidden = (s.withPassword q).address.map Address.hidden := by
  cases hblank : Text.isAllBlank s.url || Text.isAllBlank s.user with
  | true =>
      simp only [address, withPassword, hblank]
      rfl
  | false =>
      simp only [address, withPassword, hblank]
      cases s.dialect.parseAddress (Text.strip s.url) <;> rfl

theorem limitOr_agree {given : Option Number.Numeral} {read : ReadLimit} :
    Agree (limitOr given read : Task σ Number.Numeral) (limitOr given read) := by
  cases given with
  | some seconds => exact .pure
  | none => exact fun _ _ h => ⟨.ok _, _, _, rfl, rfl, h.server, h.inTransaction, h.events, congrArg (· ++ _) h.notes⟩

section Runs

variable [Server σ] (hblind : Server.Blind σ) (s : Sink)
include hblind

theorem createEngine_agree {a a' : Address} {options options' : EngineOptions} (ha : a.hidden = a'.hidden)
    (ho : options.hidden = options'.hidden) :
    Agree (createEngine s a options : Task σ Unit) (createEngine s a' options') := by
  refine .onFault (Task.perform_agree hblind ?_) fun f => ?_
  · simp only [Call.hidden, ha, ho]
  · rw [← a.redacted_hidden, ha, a'.redacted_hidden]
    exact .throw

theorem connect_agree (url : String) : Agree (connect s url : Task σ Unit) (connect s url) := by
  refine .onFault (Task.perform_agree hblind rfl) fun f => ?_
  split
  · exact .throw
  · exact Agree.note.bind fun _ => .throw

omit hblind in
theorem requireHandle_agree (url : String) : Agree (requireHandle s url : Task σ Unit) (requireHandle s url) := by
  refine .read fun link link' h => ?_
  rw [h.server]
  split
  · exact .note
  · exact .throw
  · exact .throw

theorem withConnection_agree (env : Environment) (p q : Option String) {work : Task σ α} (hwork : Agree work work) :
    Agree ((s.withPassword p).withConnection env work) ((s.withPassword q).withConnection env work) := by
  -- From here on the runs have addresses of their own, which agree but for the password.
  refine Agree.liftMap (s.address_hidden p q) fun a a' ha => limitOr_agree.bind fun connectLimit =>
    limitOr_agree.bind fun statementLimit => ?_
  have hredacted : a.redacted = a'.redacted := by rw [← a.redacted_hidden, ha, a'.redacted_hidden]
  have hoptions := s.dialect.engineOptions_hidden ha connectLimit statementLimit
  refine (createEngine_agree hblind s ha hoptions).bind fun _ => .andFinally ?_ (Task.perform_agree hblind rfl)
  rw [hredacted]
  exact (connect_agree hblind s _).bind fun _ => (requireHandle_agree s _).bind fun _ =>
    .andFinally hwork (Task.perform_agree hblind rfl)

theorem run_agree (env : Environment) (p q : Option String) (operation : Operation) :
    Agree ((s.withPassword p).run env operation : Task σ Report) ((s.withPassword q).run env operation) :=
  .report (withConnection_agree hblind s env p q (Task.run_agree hblind operation))

theorem runAll_agree (env : Environment) (p q : Option String) (operations : List Operation) {link link' : Link σ}
    (h : link.Alike link') :
    ((s.withPassword p).runAll env operations link).1 = ((s.withPassword q).runAll env operations link').1 ∧
      ((s.withPassword p).runAll env operations link).2.Alike ((s.withPassword q).runAll env operations link').2 := by
  induction operations generalizing link link' with
  | nil => exact ⟨rfl, h⟩
  | cons operation operations ih =>
      obtain ⟨r, after, after', hrun, hrun', halike⟩ := run_agree hblind s env p q operation link link' h
      obtain ⟨houtcomes, hlast⟩ := ih halike
      simp only [runAll, hrun, hrun']
      cases r with
      | ok report => exact ⟨congrArg (.ok report :: ·) houtcomes, hlast⟩
      | error e => exact ⟨congrArg (.error e :: ·) houtcomes, hlast⟩

end Runs

/-- On a scripted server no outcome and no note of a run tells the password, and no event but in its place. -/
theorem runAll_hides_password (s : Sink) (env : Environment) (p q : Option String) (operations : List Operation)
    (link : Link Script) :
    ((s.withPassword p).runAll env operations link).1 = ((s.withPassword q).runAll env operations link).1 ∧
      ((s.withPassword p).runAll env operations link).2.Alike ((s.withPassword q).runAll env operations link).2 :=
  runAll_agree Script.blind s env p q operations (.refl link)

end Sink

end SinkKeeper
