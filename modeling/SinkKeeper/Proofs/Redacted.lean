import SinkKeeper.Proofs.Numerals

/-!
# What redacted connection strings tell

The address of a connection string is written again as a connection string: the scheme, the host, the port without
zeros before it, and the database if there is one. That string is read as the same address, so what is logged of two
connection strings is the same exactly if they lead to the same place.
-/

namespace SinkKeeper

open SinkKeeper.Number

namespace Address.Parts

/-! ## The parts that are written -/

/-- The parts of the connection string that is written for the address of these parts. -/
def redacted (p : Parts) : Parts :=
  ⟨p.host, Nat.toDigits 10 (portValue p.port), p.database.map String.toList⟩

variable {p : Parts} {allowed : Option (List Char → Bool)} {name : String}

theorem database_eq_some_iff : p.database = some name ↔
    name.toList ≠ [] ∧ (p.path.getD []).takeWhile (fun c => c ≠ '?' ∧ c ≠ ';') = name.toList := by
  rw [database]
  generalize (p.path.getD []).takeWhile (fun c => decide (c ≠ '?' ∧ c ≠ ';')) = cs
  by_cases hnil : cs = []
  · rw [if_pos hnil, hnil]
    constructor
    · intro hnone
      cases hnone
    · rintro ⟨hnamed, hname⟩
      exact absurd hname.symm hnamed
  · simp only [if_neg hnil, Option.some.injEq]
    constructor
    · rintro rfl
      rw [String.toList_ofList]
      exact ⟨hnil, rfl⟩
    · rintro ⟨-, rfl⟩
      exact String.ofList_toList

/-- The path that is written holds the database and nothing else. -/
theorem database_redacted (p : Parts) : p.redacted.database = p.database := by
  cases h : p.database with
  | none =>
      rw [database, redacted, h]
      rfl
  | some name =>
      obtain ⟨hnamed, htake⟩ := database_eq_some_iff.mp h
      refine database_eq_some_iff.mpr ⟨hnamed, ?_⟩
      rw [redacted, h]
      refine List.takeWhile_eq_self_iff.mpr fun c hc => ?_
      rw [Option.map_some, Option.getD_some, ← htake] at hc
      have hplain := List.mem_takeWhile_imp hc
      exact hplain

theorem portValue_redacted (p : Parts) : portValue p.redacted.port = portValue p.port := ofDigits_toDigits _

/-- The parts that are written make the same address. -/
theorem address_redacted (p : Parts) (scheme : String) : p.redacted.address scheme = p.address scheme := by
  rw [address, address, database_redacted, portValue_redacted]
  rfl

theorem Valid.redacted (h : p.Valid allowed) : p.redacted.Valid allowed := by
  have hport : portValue p.port < 10 ^ 5 := Nat.lt_of_le_of_lt h.ranged.2 (by decide)
  have hshort : (Nat.toDigits 10 (portValue p.port)).length ≤ 5 :=
    (Nat.length_toDigits_le_iff (by decide) (by decide)).mpr hport
  refine ⟨⟨h.named, h.whole, isDigits_toDigits _⟩, Nat.le_trans hshort (by decide), ?_, h.admitted⟩
  rw [portValue_redacted]
  exact h.ranged

theorem toList_writePort (port : Nat) : (writeInt port).toList = Nat.toDigits 10 port := by
  rw [writeInt, if_neg (by omega), String.toList_ofList, Int.natAbs_natCast]

/-- Who connects is not written. -/
theorem toList_redacted (p : Parts) (scheme : String) (user password : Option String) :
    ((p.address scheme).withCredentials user password).redacted.toList = p.redacted.text scheme := by
  have hbase : (scheme ++ "://" ++ String.ofList p.host ++ ":" ++ writeInt (portValue p.port)).toList =
      scheme.toList ++ (schemeMark ++ (p.host ++ ':' :: Nat.toDigits 10 (portValue p.port))) := by
    simp [toList_writePort, schemeMark]
  rw [Address.redacted, text, redacted]
  dsimp only [withCredentials, address]
  cases h : p.database with
  | none => simp [hbase, pathText]
  | some name =>
      obtain ⟨hnamed, -⟩ := database_eq_some_iff.mp h
      have hname : name ≠ "" := fun hempty => hnamed (by rw [hempty]; rfl)
      dsimp only
      rw [if_neg hname, String.toList_append, String.toList_append, hbase]
      simp [pathText]

end Address.Parts

namespace Dialect

variable {d d' : Dialect} {url url' : String} {a a' : Address}

/-- What is written for an address that was read is read as that address, whoever connects. -/
theorem parseAddress_redacted (h : d.parseAddress url = .ok a) (user password : Option String) :
    d.parseAddress (a.withCredentials user password).redacted = .ok a := by
  have hr := Address.parse_reading d.scheme d.allowedHosts url
  rw [parseAddress] at h
  rw [h] at hr
  obtain ⟨p, hp, -, rfl⟩ := hr.parts
  rw [parseAddress, hp.redacted.parse (p.toList_redacted d.scheme user password), p.address_redacted]

/-- Schemes differ in the first letter after their common beginning. -/
theorem eq_of_scheme {rest rest' : List Char} (h : d.scheme.toList ++ rest = d'.scheme.toList ++ rest') : d = d' := by
  have hletter : ∀ (d : Dialect) (rest : List Char), (d.scheme.toList ++ rest)[5]? = d.scheme.toList[5]? := by
    intro d rest
    exact List.getElem?_append_left (by cases d <;> decide)
  have hsame : d.scheme.toList[5]? = d'.scheme.toList[5]? := by rw [← hletter d rest, h, hletter]
  cases d <;> cases d' <;> first | rfl | exact absurd hsame (by decide)

/-- No connection string is read by two dialects. -/
theorem parseAddress_unique (h : d.parseAddress url = .ok a) (h' : d'.parseAddress url = .ok a') : d = d' := by
  have htext : ∀ {d : Dialect} {a : Address}, d.parseAddress url = .ok a →
      ∃ rest, url.toList = d.scheme.toList ++ rest := by
    intro d a h
    have hr := Address.parse_reading d.scheme d.allowedHosts url
    rw [parseAddress] at h
    rw [h] at hr
    obtain ⟨p, -, hurl, -⟩ := hr.parts
    exact ⟨_, hurl⟩
  obtain ⟨rest, hurl⟩ := htext h
  obtain ⟨rest', hurl'⟩ := htext h'
  exact eq_of_scheme (hurl.symm.trans hurl')

/-- A connection string that is read is read again from what is written for its address, with any credentials, as the
same address. What is written for two connection strings is the same exactly if they are read as one address. -/
theorem redacted_tells (h : d.parseAddress url = .ok a) (user password : Option String) :
    d.parseAddress (a.withCredentials user password).redacted = .ok a ∧
    ∀ (d' : Dialect) (url' : String) (a' : Address) (user' password' : Option String),
      d'.parseAddress url' = .ok a' →
        ((a.withCredentials user password).redacted = (a'.withCredentials user' password').redacted ↔ a = a') := by
  have hread := parseAddress_redacted h user password
  refine ⟨hread, fun d' url' a' user' password' h' => ⟨fun heq => ?_, ?_⟩⟩
  · have hread' := parseAddress_redacted h' user' password'
    rw [← heq] at hread'
    cases parseAddress_unique hread hread'
    exact Except.ok.inj (hread.symm.trans hread')
  · rintro rfl
    rfl

/-- An address whose database has a slash in its name. -/
def slashed : Address := ⟨"jdbc:clickhouse", "10.0.0.7", 8123, some "a/b", none, none⟩

/-- Neither a zero before the port nor parameters are written, and the slash in the name of the database is. -/
theorem redacted_tells_slashed :
    clickhouse.parseAddress "jdbc:clickhouse://10.0.0.7:08123/a/b?x=1" = .ok slashed ∧
      clickhouse.parseAddress "jdbc:clickhouse://10.0.0.7:8123/a/b;y" = .ok slashed ∧
      mysql.parseAddress "jdbc:mysql://10.0.0.7:8123" = .ok { slashed with scheme := "jdbc:mysql", database := none } ∧
      (slashed.withCredentials (some "etl") (some "s3cret")).redacted = "jdbc:clickhouse://10.0.0.7:8123/a/b" ∧
      clickhouse.parseAddress (slashed.withCredentials (some "etl") (some "s3cret")).redacted = .ok slashed ∧
      (slashed.withCredentials (some "etl") (some "s3cret")).redacted = (slashed.withCredentials none none).redacted ∧
      (slashed.withCredentials (some "etl") (some "s3cret")).redacted ≠
        ({ slashed with scheme := "jdbc:mysql", database := none }.withCredentials none none).redacted := by
  have hread : clickhouse.parseAddress "jdbc:clickhouse://10.0.0.7:08123/a/b?x=1" = .ok slashed := rfl
  have hother : clickhouse.parseAddress "jdbc:clickhouse://10.0.0.7:8123/a/b;y" = .ok slashed := rfl
  have hmysql : mysql.parseAddress "jdbc:mysql://10.0.0.7:8123" =
      .ok { slashed with scheme := "jdbc:mysql", database := none } := rfl
  obtain ⟨hagain, htold⟩ := redacted_tells hread (some "etl") (some "s3cret")
  refine ⟨hread, hother, hmysql, by decide, hagain, (htold _ _ _ _ _ hother).mpr rfl, fun hsame => ?_⟩
  exact absurd ((htold _ _ _ _ _ hmysql).mp hsame) (by decide)

end Dialect

end SinkKeeper
