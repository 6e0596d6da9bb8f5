import SinkKeeper.Proofs.Sessions

/-!
# The lifecycle of a connection

However an operation on a sink ends, its connection is closed once and its engine is disposed of once, as the last
call. Nothing is called where there is no address to connect to.
-/

namespace SinkKeeper.Sink

variable {σ α : Type} [Server σ] {s : Sink} {server : σ} {new body : List Event} {r : Except Failure α}

/-- The forms that the calls of an operation can have. -/
inductive Form
  | untouched
  | unmade
  | unconnected
  | unusable
  | used

/-- The calls of an operation, by their form. The calls that clean up may fail. -/
inductive Lifecycle (s : Sink) (server : σ) : Form → List Event → Prop
  | untouched {e : Failure} (ha : s.address = .error e) : Lifecycle s server .untouched []
  | unmade {a : Address} {options : EngineOptions} {outcome : Outcome} (ha : s.address = .ok a)
      (failed : outcome ≠ .done) : Lifecycle s server .unmade [⟨(s.made a options).call, outcome⟩]
  | unconnected {a : Address} {options : EngineOptions} {outcome settled : Outcome} (ha : s.address = .ok a)
      (failed : outcome ≠ .done) :
      Lifecycle s server .unconnected [s.made a options, ⟨.connect, outcome⟩, ⟨.dispose, settled⟩]
  | unusable {a : Address} {options : EngineOptions} {settled : Outcome} (ha : s.address = .ok a)
      (hh : Server.handle (Server.after server ((s.opening a options).map Event.call)) ≠ .usable) :
      Lifecycle s server .unusable (s.opening a options ++ [⟨.dispose, settled⟩])
  | used {a : Address} {options : EngineOptions} {body : List Event} {closed settled : Outcome} (ha : s.address = .ok a)
      (hh : Server.handle (Server.after server ((s.opening a options).map Event.call)) = .usable)
      (hw : ∀ event ∈ body, event.call.isWork = true) :
      Lifecycle s server .used (s.opening a options ++ body ++ [⟨.close, closed⟩, ⟨.dispose, settled⟩])

/-- The form of calls, read off the events. -/
def Form.of : List Event → Form
  | [] => .untouched
  | [_] => .unmade
  | _ :: connected :: rest =>
    if connected.outcome ≠ .done then .unconnected else if rest.length = 1 then .unusable else .used

variable {form : Form}

theorem Lifecycle.form_eq (h : s.Lifecycle server form new) : form = .of new := by
  cases h with
  | untouched _ => rfl
  | unmade _ _ => rfl
  | unconnected _ failed => rw [Form.of, if_pos failed]
  | unusable _ _ => rfl
  | used _ _ _ => simp [Sink.opening, Form.of]

theorem Session.lifecycle {Q : List Event → List Event → Except Failure α → Prop} (h : s.Session server Q new r)
    (hq : ∀ opening body r, Q opening body r → ∀ event ∈ body, event.call.isWork = true) :
    ∃! form, s.Lifecycle server form new := by
  have hform : ∃ form, s.Lifecycle server form new := by
    cases h with
    | refused ha => exact ⟨_, .untouched ha⟩
    | unmade ha failed _ => exact ⟨_, .unmade ha failed⟩
    | unconnected ha failed _ _ => exact ⟨_, .unconnected ha failed⟩
    | unusable ha hh _ => exact ⟨_, .unusable ha hh⟩
    | used ha hh h _ _ =>
        rw [List.append_assoc]
        exact ⟨_, .used ha hh (hq _ _ _ h)⟩
  obtain ⟨form, hf⟩ := hform
  exact ⟨form, hf, fun _ hf' => hf'.form_eq.trans hf.form_eq.symm⟩

/-! ## What is cleaned up -/

def kinds (events : List Event) : List CallKind := events.map (·.call.kind)

theorem kinds_used (a : Address) (options : EngineOptions) (closed settled : Outcome) :
    kinds (s.opening a options ++ body ++ [⟨.close, closed⟩, ⟨.dispose, settled⟩])
      = [.createEngine, .connect] ++ kinds body ++ [.close] ++ [.dispose] := by
  simp only [kinds, List.map_append, List.append_assoc]
  rfl

theorem kind_ne_close {c : Call} (h : c.isWork = true) : c.kind ≠ .close := by
  cases c with
  | close => cases h
  | _ => exact fun hk => nomatch hk

theorem kind_ne_dispose {c : Call} (h : c.isWork = true) : c.kind ≠ .dispose := by
  cases c with
  | dispose => cases h
  | _ => exact fun hk => nomatch hk

theorem count_of_isWork {kind : CallKind} (hw : ∀ event ∈ body, event.call.isWork = true)
    (hk : ∀ c : Call, c.isWork = true → c.kind ≠ kind) : (kinds body).count kind = 0 := by
  refine List.count_eq_zero.mpr fun hm => ?_
  obtain ⟨event, he, hkind⟩ := List.mem_map.mp hm
  exact hk event.call (hw event he) hkind

/-- An engine that was made is disposed of once, after everything else. -/
theorem Lifecycle.disposed (h : s.Lifecycle server form new)
    (hm : ∃ event ∈ new, event.call.kind = .createEngine ∧ event.outcome = .done) :
    (kinds new).count .dispose = 1 ∧ (kinds new).getLast? = some .dispose := by
  cases h with
  | untouched _ =>
      obtain ⟨_, he, -⟩ := hm
      cases he
  | unmade _ failed =>
      obtain ⟨event, he, -, hdone⟩ := hm
      cases List.mem_singleton.mp he
      exact absurd hdone failed
  | unconnected _ _ => exact ⟨rfl, rfl⟩
  | unusable _ _ => exact ⟨rfl, rfl⟩
  | used _ _ hw =>
      have hnone := count_of_isWork hw fun _ => kind_ne_dispose
      rw [kinds_used]
      refine ⟨?_, List.getLast?_concat⟩
      rw [List.count_append, List.count_append, List.count_append, hnone]
      rfl

/-- A usable connection that was had is closed once. -/
theorem Lifecycle.closed (h : s.Lifecycle server form new) (hm : ⟨.connect, .done⟩ ∈ new)
    (hh : Server.handle (Server.after server ((new.take 2).map Event.call)) = .usable) :
    (kinds new).count .close = 1 := by
  cases h with
  | untouched _ => cases hm
  | unmade _ _ => simp [Sink.made] at hm
  | unconnected _ failed => simp [Sink.made, failed.symm] at hm
  | unusable _ hunusable => exact absurd hh hunusable
  | used _ _ hw =>
      have hnone := count_of_isWork hw fun _ => kind_ne_close
      rw [kinds_used, List.count_append, List.count_append, List.count_append, hnone]
      rfl

/-! ## Addresses -/

/-- There is no address where the connection string or the user is blank, or the connection string is not valid. -/
theorem address_refused (h : Text.isAllBlank s.url = true ∨ Text.isAllBlank s.user = true ∨
    ∃ e, s.dialect.parseAddress (Text.strip s.url) = .error e) : ∃ e, s.address = .error e := by
  unfold Sink.address
  split
  · exact ⟨_, rfl⟩
  · rename_i hblank
    obtain h | h | ⟨e, he⟩ := h
    · exact absurd (by rw [h]; rfl) hblank
    · exact absurd (by rw [h, Bool.or_true]) hblank
    · exact ⟨e, by rw [he]; rfl⟩

theorem Lifecycle.nil_of_refused (h : s.Lifecycle server form new) (hr : ∃ e, s.address = .error e) : new = [] := by
  obtain ⟨e, he⟩ := hr
  cases h with
  | untouched _ => rfl
  | unmade ha _ => cases ha.symm.trans he
  | unconnected ha _ => cases ha.symm.trans he
  | unusable ha _ => cases ha.symm.trans he
  | used ha _ _ => cases ha.symm.trans he

/-- Whatever ends an operation, its calls have one of the five forms. -/
theorem run_lifecycle (s : Sink) (env : Environment) (op : Operation) (link : Link σ) :
    Task.Ends (s.run env op) link fun new _ _ =>
      (∃! form, s.Lifecycle link.server form new) ∧
      ((∃ event ∈ new, event.call.kind = .createEngine ∧ event.outcome = .done) →
        (kinds new).count .dispose = 1 ∧ (kinds new).getLast? = some .dispose) ∧
      (⟨.connect, .done⟩ ∈ new →
        Server.handle (Server.after link.server ((new.take 2).map Event.call)) = .usable →
          (kinds new).count .close = 1) ∧
      (Text.isAllBlank s.url = true ∨ Text.isAllBlank s.user = true ∨
        (∃ e, s.dialect.parseAddress (Text.strip s.url) = .error e) → new = []) := by
  refine (run_session True (.inl trivial) (.inl trivial)).mono ?_
  rintro new _ _ - ⟨r, -, hsession⟩
  obtain ⟨form, hform, hunique⟩ := hsession.lifecycle fun _ _ _ hbody => hbody.1
  refine ⟨⟨form, hform, hunique⟩, hform.disposed, hform.closed, ?_⟩
  exact fun h => hform.nil_of_refused (address_refused h)

end SinkKeeper.Sink
