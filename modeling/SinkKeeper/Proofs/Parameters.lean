import Mathlib.Data.List.TakeWhile
import SinkKeeper.Proofs.Addresses
import SinkKeeper.Sink

/-!
# Parameters of connection strings

The parameters of a connection string begin at its first question mark or semicolon. Unless they begin inside the
authority, they have no part in what is read of it, and none in anything that a sink does or tells. Inside the
authority they are taken for a part of the host or of the port, and are told as such.
-/

namespace SinkKeeper

open SinkKeeper.Text

/-! ## Texts with a mark in them -/

section Marks

variable {mark : Char} {start before after : List Char} {p : Char → Bool}

/-- What follows a start is told by what stands before a mark that the start does not have. -/
theorem after?_append_cons (h : mark ∉ start) :
    after? start (before ++ mark :: after) = (after? start before).map (· ++ mark :: after) := by
  induction start generalizing before with
  | nil => rfl
  | cons a start ih =>
      obtain ⟨ha, hstart⟩ := not_or.mp (mt List.mem_cons.mpr h)
      cases before with
      | nil => exact if_neg fun h => ha h.symm
      | cons c before =>
          rw [List.cons_append, after?, after?]
          split
          · exact ih hstart
          · rfl

theorem dropWhile_append_cons (h : p mark = false) :
    (before ++ mark :: after).dropWhile p = before.dropWhile p ++ mark :: after := by
  have hmark : (mark :: after).dropWhile p = mark :: after := List.dropWhile_cons_of_neg (by simp [h])
  rw [List.dropWhile_append]
  split
  · rename_i hall
    rw [List.isEmpty_iff.mp hall, hmark]
    rfl
  · rfl

theorem trimWith_append_cons (h : p mark = false) :
    trimWith p (before ++ mark :: after) = before.dropWhile p ++ mark :: trimRightWith p after := by
  rw [trimWith, dropWhile_append_cons h, List.reverse_append, List.reverse_cons, List.append_assoc,
    List.singleton_append, dropWhile_append_cons h, List.reverse_append, List.reverse_cons, List.reverse_reverse,
    List.append_assoc, List.singleton_append, trimRightWith]

end Marks

/-! ## What is read of parameters -/

namespace Address

variable {scheme : String} {allowed : Option (List Char → Bool)} {mark : Char}
  {before path authority host port : List Char}

/-- A connection string with parameters, and the mark that begins them. -/
def withParameters (before : List Char) (mark : Char) (parameters : List Char) : String :=
  String.ofList (before ++ mark :: parameters)

/-- A text that ends inside the authority of a connection string. -/
def EndsInAuthority (scheme : String) (before : List Char) : Prop :=
  ∃ authority, before = scheme.toList ++ (schemeMark ++ authority) ∧ '/' ∉ authority

instance : Decidable (EndsInAuthority scheme before) :=
  decidable_of_iff (∃ authority ∈ after? (scheme.toList ++ schemeMark) before, '/' ∉ authority) <| by
    simp only [EndsInAuthority, Option.mem_def, after?_eq_some_iff, List.append_assoc]

theorem mark_not_mem_schemeMark (hm : isParameterMark mark = true) : mark ∉ schemeMark := by
  intro h
  simp only [schemeMark, List.mem_cons, List.not_mem_nil, or_false] at h
  obtain rfl | rfl | rfl := h <;> cases hm

theorem databaseOf_parameters (hp : ∀ c ∈ path, isParameterMark c = false) (hm : isParameterMark mark = true)
    (parameters : List Char) : databaseOf (path ++ mark :: parameters) = databaseOf path := by
  have htake : (path ++ mark :: parameters).takeWhile (!isParameterMark ·) = path.takeWhile (!isParameterMark ·) := by
    have hall : ∀ c ∈ path, (!isParameterMark c) = true := fun c hc => by rw [hp c hc, Bool.not_false]
    have hstop : (mark :: parameters).takeWhile (!isParameterMark ·) = [] := List.takeWhile_cons_of_neg (by simp [hm])
    rw [List.takeWhile_append_of_pos hall, hstop, List.append_nil, List.takeWhile_eq_self_iff.mpr hall]
  rw [databaseOf, databaseOf, htake]

/-- Parameters in the path are dropped. -/
theorem parse_pathParameters (hwhole : '/' ∉ authority) (hp : ∀ c ∈ path, isParameterMark c = false)
    (hm : isParameterMark mark = true) (x y : List Char) :
    parse scheme allowed (withParameters (scheme.toList ++ (schemeMark ++ (authority ++ '/' :: path))) mark x) =
      parse scheme allowed (withParameters (scheme.toList ++ (schemeMark ++ (authority ++ '/' :: path))) mark y) := by
  have htext : ∀ z, (withParameters (scheme.toList ++ (schemeMark ++ (authority ++ '/' :: path))) mark z).toList =
      scheme.toList ++ (schemeMark ++ (authority ++ pathText (some (path ++ mark :: z)))) := by
    intro z
    simp [withParameters, pathText]
  by_cases hempty : authority = []
  · subst hempty
    have hread : ∀ z, parse scheme allowed (withParameters (scheme.toList ++ (schemeMark ++ '/' :: path)) mark z) =
        .error (.sink (noAuthority scheme)) := by
      intro z
      have hpath : (withParameters (scheme.toList ++ (schemeMark ++ '/' :: path)) mark z).toList =
          scheme.toList ++ (schemeMark ++ pathText (some (path ++ mark :: z))) := htext z
      exact parse_of_no_authority hpath
    exact (hread x).trans (hread y).symm
  · have hread : ∀ z, parse scheme allowed
        (withParameters (scheme.toList ++ (schemeMark ++ (authority ++ '/' :: path))) mark z) =
          readLocated scheme allowed authority (path ++ mark :: z) :=
      fun z => parse_of_located ⟨htext z, hempty, hwhole⟩
    rw [hread x, hread y, readLocated, readLocated, databaseOf_parameters hp hm, databaseOf_parameters hp hm]

/-- Outside the authority, parameters are not told apart. -/
theorem parse_withParameters (hs : ∀ c ∈ scheme.toList, isParameterMark c = false)
    (hb : ∀ c ∈ before, isParameterMark c = false) (hm : isParameterMark mark = true)
    (h : ¬EndsInAuthority scheme before) (x y : List Char) :
    parse scheme allowed (withParameters before mark x) = parse scheme allowed (withParameters before mark y) := by
  have htext : ∀ z, (withParameters before mark z).toList = before ++ mark :: z := fun z => String.toList_ofList
  have hscheme : mark ∉ scheme.toList := fun hmem => Bool.false_ne_true ((hs mark hmem).symm.trans hm)
  cases hrest : after? scheme.toList before with
  | none =>
      -- The mark is in no scheme, so that the scheme would have to stand before it.
      have hunschemed : ∀ z, ¬scheme.toList <+: (withParameters before mark z).toList := by
        rintro z ⟨rest, hbegins⟩
        have hafter : after? scheme.toList (before ++ mark :: z) = _ := after?_append_cons hscheme
        rw [hrest, ← htext, after?_eq_some_iff.mpr hbegins.symm] at hafter
        cases hafter
      rw [parse_of_unschemed fun hbegins => absurd hbegins (hunschemed x),
        parse_of_unschemed fun hbegins => absurd hbegins (hunschemed y)]
  | some rest =>
      obtain rfl := after?_eq_some_iff.mp hrest
      cases hlocated : after? schemeMark rest with
      | none =>
          have hread : ∀ z, parse scheme allowed (withParameters (scheme.toList ++ rest) mark z) =
              .error (.sink (noMark scheme)) := by
            intro z
            have hbegins : (withParameters (scheme.toList ++ rest) mark z).toList =
                scheme.toList ++ (rest ++ mark :: z) := by rw [htext, List.append_assoc]
            refine parse_of_unmarked hbegins (by simp [htext]) ?_
            rw [after?_append_cons (mark_not_mem_schemeMark hm), hlocated]
            rfl
          rw [hread x, hread y]
      | some located =>
          obtain rfl := after?_eq_some_iff.mp hlocated
          have hslash : '/' ∈ located := by
            by_contra hwhole
            exact h ⟨located, rfl, hwhole⟩
          obtain ⟨authority, path, rfl, hwhole⟩ := List.eq_append_cons_of_mem hslash
          exact parse_pathParameters hwhole (fun c hc => hb c (by simp [hc])) hm x y

theorem Split.count (h : Split authority host port) : authority.count ':' = 1 := by
  rw [h.text, List.count_append, List.count_cons_self, List.count_eq_zero.mpr h.first, List.count_eq_zero.mpr h.last]

/-- Inside the authority, they are: colons among them are told with the authority. -/
theorem parse_withParameters_ne (h : EndsInAuthority scheme before) (hm : isParameterMark mark = true) :
    ∃ x y, parse scheme allowed (withParameters before mark x) ≠
      parse scheme allowed (withParameters before mark y) := by
  obtain ⟨authority, rfl, hwhole⟩ := h
  have htold : ∀ n, parse scheme allowed
      (withParameters (scheme.toList ++ (schemeMark ++ authority)) mark (List.replicate (n + 2) ':')) =
        .error (.sink (wrongHostPort (String.ofList (authority ++ mark :: List.replicate (n + 2) ':')))) := by
    intro n
    have hmark : mark ≠ '/' := by
      rintro rfl
      cases hm
    have hlocated : Located scheme
        (withParameters (scheme.toList ++ (schemeMark ++ authority)) mark (List.replicate (n + 2) ':')).toList
          (authority ++ mark :: List.replicate (n + 2) ':') none :=
      ⟨by simp [withParameters, pathText], by simp, by simp [hwhole, hmark.symm]⟩
    refine parse_of_unsplit hlocated fun host port hs => ?_
    have hcount := hs.count
    rw [List.count_append, List.count_cons, List.count_replicate_self] at hcount
    omega
  refine ⟨List.replicate 2 ':', List.replicate 3 ':', fun heq => ?_⟩
  rw [htold 0, htold 1] at heq
  injection heq with hfailure
  injection hfailure with herror
  injection herror with _ hmessage
  have hlength := congrArg String.length hmessage
  simp only [String.length_append, String.length_ofList, List.length_append, List.length_cons,
    List.length_replicate] at hlength
  omega

end Address

/-! ## What a sink does with parameters -/

namespace Sink

variable {before : List Char} {mark : Char}

/-- The sink with another connection string. -/
def withUrl (s : Sink) (url : String) : Sink := { s with url }

theorem scheme_unmarked (d : Dialect) : ∀ c ∈ d.scheme.toList, Address.isParameterMark c = false := by
  have hall : d.scheme.toList.all (fun c => Address.isParameterMark c == false) = true := by cases d <;> decide
  exact fun c hc => beq_iff_eq.mp (List.all_eq_true.mp hall c hc)

theorem address_withParameters (s : Sink) (hb : ∀ c ∈ before, Address.isParameterMark c = false)
    (hm : Address.isParameterMark mark = true)
    (h : ¬Address.EndsInAuthority s.dialect.scheme (before.dropWhile isBlank)) (x y : List Char) :
    (s.withUrl (Address.withParameters before mark x)).address =
      (s.withUrl (Address.withParameters before mark y)).address := by
  have hmark : isBlank mark = false := by
    rw [Address.isParameterMark, Bool.or_eq_true, decide_eq_true_eq, decide_eq_true_eq] at hm
    obtain rfl | rfl := hm <;> rfl
  have hfull : ∀ z, isAllBlank (Address.withParameters before mark z) = false := by
    intro z
    simp [isAllBlank, Address.withParameters, hmark]
  have hstrip : ∀ z, strip (Address.withParameters before mark z) =
      Address.withParameters (before.dropWhile isBlank) mark (trimRightWith isBlank z) := by
    intro z
    rw [strip, Address.withParameters, String.toList_ofList, trimWith_append_cons hmark, Address.withParameters]
  have hdrop : ∀ c ∈ before.dropWhile isBlank, Address.isParameterMark c = false :=
    fun c hc => hb c ((List.dropWhile_sublist isBlank).subset hc)
  have hread : s.dialect.parseAddress (strip (Address.withParameters before mark x)) =
      s.dialect.parseAddress (strip (Address.withParameters before mark y)) := by
    rw [hstrip, hstrip]
    exact Address.parse_withParameters (scheme_unmarked s.dialect) hdrop hm h _ _
  simp only [address, withUrl, hfull, hread]

/-- What a sink does depends on its connection string by the address alone. -/
theorem run_withUrl {σ : Type} [Server σ] (s : Sink) {url url' : String}
    (h : (s.withUrl url).address = (s.withUrl url').address) (env : Environment) (op : Operation) :
    ((s.withUrl url).run env op : Task σ Report) = (s.withUrl url').run env op := by
  unfold run withConnection
  rw [h]
  rfl

end Sink

/-- Parameters have no part in what is read of a connection string just if they begin outside its authority; then they
have none in what a sink does either, in its calls, its notes and its outcome. -/
theorem parameters_untold_iff {σ : Type} [Server σ] (d : Dialect) {before : List Char} {mark : Char}
    (hbefore : '?' ∉ before ∧ ';' ∉ before) (hmark : mark = '?' ∨ mark = ';') :
    ((∀ x y, d.parseAddress (Address.withParameters before mark x) =
        d.parseAddress (Address.withParameters before mark y)) ↔ ¬Address.EndsInAuthority d.scheme before) ∧
    (¬Address.EndsInAuthority d.scheme (before.dropWhile isBlank) →
      ∀ (s : Sink) (env : Environment) (op : Operation) (x y : List Char), s.dialect = d →
        ((s.withUrl (Address.withParameters before mark x)).run env op : Task σ Report) =
          (s.withUrl (Address.withParameters before mark y)).run env op) := by
  have hb : ∀ c ∈ before, Address.isParameterMark c = false := by
    intro c hc
    have hquestion : c ≠ '?' := fun h => hbefore.1 (h ▸ hc)
    have hsemicolon : c ≠ ';' := fun h => hbefore.2 (h ▸ hc)
    simp [Address.isParameterMark, hquestion, hsemicolon]
  have hm : Address.isParameterMark mark = true := by
    obtain rfl | rfl := hmark <;> rfl
  refine ⟨⟨fun hsame hends => ?_, fun h x y => ?_⟩, ?_⟩
  · have hapart : ∃ x y, Address.parse d.scheme d.allowedHosts (Address.withParameters before mark x) ≠ _ :=
      Address.parse_withParameters_ne hends hm
    obtain ⟨x, y, hne⟩ := hapart
    exact hne (hsame x y)
  · exact Address.parse_withParameters (Sink.scheme_unmarked d) hb hm h x y
  · rintro h s env op x y rfl
    exact s.run_withUrl (s.address_withParameters hb hm h x y) env op

/-- A connection string up to its parameters. -/
def salesUrl : List Char := "jdbc:mysql://localhost:3306/sales".toList

/-- A password among the parameters of a database is not told. -/
theorem parameters_untold_sales :
    ('?' ∉ salesUrl ∧ ';' ∉ salesUrl) ∧ ('?' = '?' ∨ '?' = ';') ∧ ¬Address.EndsInAuthority "jdbc:mysql" salesUrl ∧
      Dialect.mysql.parseAddress (Address.withParameters salesUrl '?' "password=secret".toList) =
        Dialect.mysql.parseAddress (Address.withParameters salesUrl '?' []) ∧
      ((⟨.mysql, "jdbc:mysql://localhost:3306/sales?password=secret", "root", none, none, none⟩ : Sink).run ⟨[]⟩
          (.listTables (.string "sales")) : Task Script Report) =
        (⟨.mysql, "jdbc:mysql://localhost:3306/sales?", "root", none, none, none⟩ : Sink).run ⟨[]⟩
          (.listTables (.string "sales")) := by
  have hbefore : '?' ∉ salesUrl ∧ ';' ∉ salesUrl := by decide
  have hends : ¬Address.EndsInAuthority "jdbc:mysql" salesUrl := by decide
  have hdrop : salesUrl.dropWhile isBlank = salesUrl := by decide
  obtain ⟨hread, hrun⟩ := parameters_untold_iff (σ := Script) .mysql hbefore (.inl rfl : '?' = '?' ∨ '?' = ';')
  refine ⟨hbefore, .inl rfl, hends, hread.mpr hends _ _, ?_⟩
  exact hrun (hdrop ▸ hends) ⟨.mysql, "", "root", none, none, none⟩ ⟨[]⟩ _ "password=secret".toList [] rfl

/-- A connection string up to its parameters, without a path. -/
def portUrl : List Char := "jdbc:mysql://localhost:3306".toList

/-- A password among parameters right after the port is told with the port, and one before the port becomes a part of
the host. -/
theorem parameters_told_in_authority :
    '?' ∉ portUrl ∧ ';' ∉ portUrl ∧
      Dialect.mysql.parseAddress (Address.withParameters portUrl '?' "password=secret".toList) =
        .error (.sink (Address.wrongPortText "3306?password=secret")) ∧
      Dialect.mysql.parseAddress (Address.withParameters portUrl '?' []) =
        .error (.sink (Address.wrongPortText "3306?")) ∧
      Dialect.mysql.parseAddress "jdbc:mysql://h?password=secret:3306" =
        .ok ⟨"jdbc:mysql", "h?password=secret", 3306, none, none, none⟩ :=
  ⟨by decide, by decide, rfl, rfl, rfl⟩

end SinkKeeper
