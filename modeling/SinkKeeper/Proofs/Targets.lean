import SinkKeeper.Proofs.Addresses
import SinkKeeper.Proofs.Lifecycle
import SinkKeeper.Proofs.Services

/-!
# Whom ClickHouse is sought at

The hosts that may be connected to are the local one and the members of two networks: those, and strays. A stray has a
number in the place of a member's that no member has, one that is too large or written in digits of another script.
No engine of ClickHouse is made for any other host, by whatever runs.
-/

namespace SinkKeeper

open SinkKeeper.Text

namespace Clickhouse

/-! ## Targets and strays -/

/-- What the hosts of the two networks begin with. -/
def networks : List (List Char) := ["192.168.1.".toList, "10.0.0.".toList]

/-- One to three decimal digits of any script. -/
structure IsNumber (number : List Char) : Prop where
  nonempty : number ≠ []
  short : number.length ≤ 3
  digits : ∀ c ∈ number, isDecimalDigit c = true

/-- The number that digits spell. -/
def spelled (number : List Char) : Nat := Number.ofDigits (number.filterMap digitValue?)

/-- The hosts that are meant to be connected to. -/
inductive Target : List Char → Prop
  | localhost : Target "localhost".toList
  | member {network number : List Char} (hnetwork : network ∈ networks) (hnumber : IsNumber number)
      (hascii : ∀ c ∈ number, isAsciiDigit c = true) (hsmall : spelled number ≤ 255) : Target (network ++ number)

/-- The hosts that may be connected to beside these. -/
inductive Stray : List Char → Prop
  | foreign {network number : List Char} {c : Char} (hnetwork : network ∈ networks) (hnumber : IsNumber number)
      (hc : c ∈ number) (hforeign : isAsciiDigit c = false) : Stray (network ++ number)
  | large {network number : List Char} (hnetwork : network ∈ networks) (hnumber : IsNumber number)
      (hascii : ∀ c ∈ number, isAsciiDigit c = true) (hlarge : 255 < spelled number) : Stray (network ++ number)

variable {host network network' number number' : List Char}

theorem isHostNumber_iff : isHostNumber number = true ↔ IsNumber number := by
  simp only [isHostNumber, Bool.and_eq_true, Bool.not_eq_true', List.isEmpty_eq_false_iff, decide_eq_true_eq,
    List.all_eq_true]
  exact ⟨fun ⟨⟨hne, hshort⟩, hdigits⟩ => ⟨hne, hshort, hdigits⟩, fun h => ⟨⟨h.nonempty, h.short⟩, h.digits⟩⟩

theorem any_isHostNumber_iff :
    (after? network host).any isHostNumber = true ↔ ∃ number, host = network ++ number ∧ IsNumber number := by
  simp only [Option.any_eq_true, after?_eq_some_iff, isHostNumber_iff]

theorem allowsHost_iff : allowsHost host = true ↔
    host = "localhost".toList ∨ ∃ network ∈ networks, ∃ number, host = network ++ number ∧ IsNumber number := by
  simp only [allowsHost, Bool.or_eq_true, beq_iff_eq, any_isHostNumber_iff, networks, List.mem_cons, List.not_mem_nil,
    or_false, exists_eq_or_imp, exists_eq_left, or_assoc]

theorem targets_or_strays : allowsHost host = true ↔ Target host ∨ Stray host := by
  rw [allowsHost_iff]
  constructor
  · rintro (rfl | ⟨network, hnetwork, number, rfl, hnumber⟩)
    · exact .inl .localhost
    · by_cases hascii : ∀ c ∈ number, isAsciiDigit c = true
      · rcases Nat.lt_or_ge 255 (spelled number) with hlarge | hsmall
        · exact .inr (.large hnetwork hnumber hascii hlarge)
        · exact .inl (.member hnetwork hnumber hascii hsmall)
      · obtain ⟨c, hc, hforeign⟩ : ∃ c ∈ number, isAsciiDigit c ≠ true := by simpa using hascii
        exact .inr (.foreign hnetwork hnumber hc (Bool.eq_false_iff.mpr hforeign))
  · rintro (h | h)
    · cases h with
      | localhost => exact .inl rfl
      | member hnetwork hnumber => exact .inr ⟨_, hnetwork, _, rfl, hnumber⟩
    · cases h with
      | foreign hnetwork hnumber | large hnetwork hnumber => exact .inr ⟨_, hnetwork, _, rfl, hnumber⟩

/-- A host is a member of one network, with one number. -/
theorem number_unique (h : network ∈ networks) (h' : network' ∈ networks)
    (heq : network ++ number = network' ++ number') :
    number = number' := by
  simp only [networks, List.mem_cons, List.not_mem_nil, or_false] at h h'
  obtain rfl | rfl := h <;> obtain rfl | rfl := h'
  · exact List.append_cancel_left heq
  · cases heq
  · cases heq
  · exact List.append_cancel_left heq

theorem localhost_not_member (h : network ∈ networks) : "localhost".toList ≠ network ++ number := by
  simp only [networks, List.mem_cons, List.not_mem_nil, or_false] at h
  obtain rfl | rfl := h <;> exact fun heq => nomatch heq

theorem Stray.member (h : Stray host) : ∃ network ∈ networks, ∃ number, host = network ++ number ∧
    ¬((∀ c ∈ number, isAsciiDigit c = true) ∧ spelled number ≤ 255) := by
  cases h with
  | foreign hnetwork _ hc hforeign =>
      exact ⟨_, hnetwork, _, rfl, fun h => Bool.false_ne_true (hforeign.symm.trans (h.1 _ hc))⟩
  | large hnetwork _ _ hlarge => exact ⟨_, hnetwork, _, rfl, fun h => Nat.not_lt_of_le h.2 hlarge⟩

theorem Target.not_stray (h : Target host) : ¬Stray host := by
  intro hstray
  obtain ⟨network, hnetwork, number, rfl, hwrong⟩ := hstray.member
  generalize hhost : network ++ number = host at h
  cases h with
  | localhost => exact localhost_not_member hnetwork hhost.symm
  | member hnetwork' _ hascii hsmall =>
      cases number_unique hnetwork hnetwork' hhost
      exact hwrong ⟨hascii, hsmall⟩

/-- A host is either meant or a stray. -/
def Reached (host : List Char) : Prop := Xor (Target host) (Stray host)

theorem reached_iff : Reached host ↔ allowsHost host = true := by
  rw [targets_or_strays, Reached, Xor]
  constructor
  · rintro (⟨h, -⟩ | ⟨h, -⟩)
    · exact .inl h
    · exact .inr h
  · rintro (h | h)
    · exact .inl ⟨h, h.not_stray⟩
    · exact .inr ⟨h, fun htarget => htarget.not_stray h⟩

/-! ## Hosts of connection strings -/

theorem plain_of_allowsHost (h : allowsHost host = true) : host ≠ [] ∧ '/' ∉ host ∧ ':' ∉ host := by
  rw [allowsHost_iff] at h
  obtain rfl | ⟨network, hnetwork, number, rfl, hnumber⟩ := h
  · decide
  have hnot : ∀ c, isDecimalDigit c = false → c ∉ number := fun c hc hmem =>
    Bool.false_ne_true (hc.symm.trans (hnumber.digits c hmem))
  have hslash : '/' ∉ number := hnot '/' (by decide)
  have hcolon : ':' ∉ number := hnot ':' (by decide)
  simp only [networks, List.mem_cons, List.not_mem_nil, or_false] at hnetwork
  obtain rfl | rfl := hnetwork <;> simp [hslash, hcolon]

theorem reached_of_parseAddress {url : String} {a : Address} (h : Dialect.clickhouse.parseAddress url = .ok a) :
    Reached a.host.toList := by
  have hr := Address.parse_reading Dialect.clickhouse.scheme Dialect.clickhouse.allowedHosts url
  rw [Dialect.parseAddress] at h
  rw [h] at hr
  obtain ⟨p, hp, -, rfl⟩ := hr.parts
  rw [reached_iff, Address.Parts.address, String.toList_ofList]
  exact hp.admitted allowsHost rfl

theorem parseAddress_of_reached {p : Address.Parts} (h : Reached p.host) (hport : Address.IsPort p.port)
    (hshort : p.port.length ≤ 4300) :
    Dialect.clickhouse.parseAddress (String.ofList (p.text "jdbc:clickhouse")) = .ok (p.address "jdbc:clickhouse") := by
  rw [reached_iff] at h
  obtain ⟨hnamed, hslash, hcolon⟩ := plain_of_allowsHost h
  have hvalid : p.Valid (some allowsHost) := by
    refine ⟨⟨hnamed, ⟨hslash, hcolon⟩, hport.1⟩, hshort, hport.2, fun accepts haccepts => ?_⟩
    cases haccepts
    exact h
  exact hvalid.parse String.toList_ofList

end Clickhouse

/-! ## Engines -/

/-- An engine of ClickHouse is made for a target or for a stray. -/
def Event.Aimed (event : Event) : Prop :=
  ∀ a options, event.call = .createEngine Dialect.clickhouse.driver a options → Clickhouse.Reached a.host.toList

theorem Dialect.driver_injective : Function.Injective Dialect.driver := by
  intro d d' h
  cases d <;> cases d' <;> first | rfl | exact absurd h (by decide)

namespace Sink

variable {σ : Type} [Server σ] {s : Sink} {server : σ} {form : Form} {new : List Event} {event : Event} {a : Address}
  {driver : String} {options : EngineOptions}

/-- An engine is made for the address of the sink. -/
theorem Lifecycle.engine (h : s.Lifecycle server form new) (hmem : event ∈ new)
    (hcall : event.call = .createEngine driver a options) : driver = s.dialect.driver ∧ s.address = .ok a := by
  have hmade : ∀ {a' : Address} {options' : EngineOptions}, s.address = .ok a' →
      (s.made a' options').call = .createEngine driver a options → driver = s.dialect.driver ∧ s.address = .ok a := by
    intro a' options' ha heq
    cases heq
    exact ⟨rfl, ha⟩
  cases h with
  | untouched _ => cases hmem
  | unmade ha _ =>
      cases List.mem_singleton.mp hmem
      exact hmade ha hcall
  | unconnected ha _ =>
      simp only [List.mem_cons, List.not_mem_nil, or_false] at hmem
      obtain rfl | rfl | rfl := hmem
      · exact hmade ha hcall
      · cases hcall
      · cases hcall
  | unusable ha _ =>
      simp only [opening, List.cons_append, List.nil_append, List.mem_cons, List.not_mem_nil, or_false] at hmem
      obtain rfl | rfl | rfl := hmem
      · exact hmade ha hcall
      · cases hcall
      · cases hcall
  | used ha _ hw =>
      simp only [opening, List.cons_append, List.nil_append, List.mem_cons, List.mem_append, List.not_mem_nil,
        or_false] at hmem
      obtain rfl | rfl | hbody | rfl | rfl := hmem
      · exact hmade ha hcall
      · cases hcall
      · have hwork := hw event hbody
        rw [hcall] at hwork
        cases hwork
      · cases hcall
      · cases hcall

theorem reached_of_address (hd : s.dialect = .clickhouse) (ha : s.address = .ok a) :
    Clickhouse.Reached a.host.toList := by
  unfold address at ha
  split at ha
  · cases ha
  · rw [hd] at ha
    cases hparse : Dialect.clickhouse.parseAddress (strip s.url) with
    | error e =>
        rw [hparse] at ha
        cases ha
    | ok read =>
        rw [hparse] at ha
        cases ha
        have hread : Clickhouse.Reached read.host.toList := Clickhouse.reached_of_parseAddress hparse
        exact hread

theorem run_aimed (s : Sink) (env : Environment) (op : Operation) (link : Link σ) :
    Task.Ends (s.run env op) link fun new _ _ => ∀ event ∈ new, event.Aimed := by
  refine (run_session True (.inl trivial) (.inl trivial)).mono ?_
  rintro new _ _ - ⟨r, -, hsession⟩ event hmem a options hcall
  obtain ⟨form, hform, -⟩ := hsession.lifecycle fun _ _ _ hbody => hbody.1
  obtain ⟨hdriver, ha⟩ := hform.engine hmem hcall
  exact reached_of_address (Dialect.driver_injective hdriver).symm ha

end Sink

/-- The hosts that are read for ClickHouse are the targets and the strays, no host is both, and no engine of
ClickHouse is made for another, whoever visits and whatever is commanded. -/
theorem engines_aimed {σ : Type} [Server σ] :
    (∀ url a, Dialect.clickhouse.parseAddress url = .ok a → Clickhouse.Reached a.host.toList) ∧
    (∀ p : Address.Parts, Clickhouse.Reached p.host → Address.IsPort p.port → p.port.length ≤ 4300 →
      Dialect.clickhouse.parseAddress (String.ofList (p.text "jdbc:clickhouse")) = .ok (p.address "jdbc:clickhouse")) ∧
    (∀ (site : Web.Site σ) (run : List Web.Visit), (∀ event ∈ site.backends.link.events, event.Aimed) →
      ∀ record ∈ site.visits run, ∀ event ∈ record.after.backends.link.events, event.Aimed) ∧
    ∀ (s : Surroundings) (words : List String) (link : Link σ),
      Task.Ends (CommandLine.run s words) link fun new _ _ => ∀ event ∈ new, event.Aimed := by
  refine ⟨fun url a => Clickhouse.reached_of_parseAddress, fun p => Clickhouse.parseAddress_of_reached, ?_, ?_⟩
  · exact fun site run => site.visits_events Sink.run_aimed run
  · exact CommandLine.run_events Sink.run_aimed

/-- The hosts that engines of ClickHouse were made for. -/
def engineHosts (events : List Event) : List String :=
  events.filterMap fun event =>
    match event.call with
    | .createEngine driver a _ => if driver = Dialect.clickhouse.driver then some a.host else none
    | _ => none

/-- A visit with the token to list the tables of a ClickHouse. -/
def nineVisit : Web.Visit :=
  .app ⟨Web.tokenEnvironment, none⟩ {
    method := "POST"
    path := "/api/sinks/clickhouse/tables/list"
    params := []
    headers := [("Authorization", "Bearer secret"), ("Content-Type", "application/json")]
    body := Utf8.encode ((Json.object [("url", .string "jdbc:clickhouse://192.168.1.9:8123/x"),
      ("username", .string "u"), ("database", .string "x")]).render .compact).toList }

/-- A host with the number 9 is meant, and an engine is made for it. -/
theorem engines_aimed_nine :
    (∀ event ∈ Web.newSite.backends.link.events, event.Aimed) ∧
      ((Web.newSite.visits [nineVisit]).map fun record => engineHosts record.after.backends.link.events) =
        [["192.168.1.9"]] ∧
      (∀ record ∈ Web.newSite.visits [nineVisit], ∀ event ∈ record.after.backends.link.events, event.Aimed) ∧
      Dialect.clickhouse.parseAddress "jdbc:clickhouse://192.168.1.9:8123/x" =
        .ok ⟨"jdbc:clickhouse", "192.168.1.9", 8123, some "x", none, none⟩ ∧
      Clickhouse.Reached "192.168.1.9".toList ∧ Clickhouse.Target "192.168.1.9".toList := by
  obtain ⟨hread, -, hvisits, -⟩ := engines_aimed (σ := Script)
  have hnone : ∀ event ∈ Web.newSite.backends.link.events, event.Aimed := List.forall_mem_nil _
  have hnine : Clickhouse.IsNumber ['9'] := ⟨by decide, by decide, List.all_eq_true.mp rfl⟩
  have hnetwork : "192.168.1.".toList ∈ Clickhouse.networks := List.mem_cons_self
  have htarget := Clickhouse.Target.member hnetwork hnine (List.all_eq_true.mp rfl) (by decide)
  refine ⟨hnone, by decide +kernel, hvisits _ _ hnone, rfl, ?_, htarget⟩
  exact hread "jdbc:clickhouse://192.168.1.9:8123/x" _ rfl

/-- What listing tables leaves on a server that answers nothing. -/
def linkAfter (s : Sink) : Link Script :=
  match s.run ⟨[]⟩ (.listTables (.string "x")) (.fresh .empty) with
  | .ok _ link | .error _ link => link

/-- Engines are made for a host with the number 999 and for one with a digit of another script. Both are strays. -/
theorem engines_stray :
    engineHosts (linkAfter ⟨.clickhouse, "jdbc:clickhouse://192.168.1.999:8123/x", "u", none, none, none⟩).events =
        ["192.168.1.999"] ∧
      engineHosts (linkAfter ⟨.clickhouse, "jdbc:clickhouse://10.0.0.\u0663:8123/x", "u", none, none, none⟩).events =
        ["10.0.0.\u0663"] ∧
      ¬Clickhouse.Target "192.168.1.999".toList ∧ ¬Clickhouse.Target "10.0.0.\u0663".toList := by
  have hnines : Clickhouse.IsNumber "999".toList := ⟨by decide, by decide, List.all_eq_true.mp rfl⟩
  have hlarge : Clickhouse.Stray ("192.168.1.".toList ++ "999".toList) :=
    .large List.mem_cons_self hnines (List.all_eq_true.mp rfl) (by decide)
  have hthree : Clickhouse.IsNumber ['\u0663'] := ⟨by decide, by decide, List.all_eq_true.mp rfl⟩
  have hforeign : Clickhouse.Stray ("10.0.0.".toList ++ ['\u0663']) :=
    .foreign (List.mem_cons_of_mem _ List.mem_cons_self) hthree List.mem_cons_self rfl
  exact ⟨by decide +kernel, by decide +kernel, fun h => h.not_stray hlarge, fun h => h.not_stray hforeign⟩

end SinkKeeper
