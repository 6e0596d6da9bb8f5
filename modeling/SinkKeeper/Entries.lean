/-!
# Named entries

Values under names, in a list that has each name once. A value that is put under a name takes the place of
the one before it; a new name goes to the end.
-/

namespace SinkKeeper.Entries

variable {α : Type}

def put (name : String) (value : α) : List (String × α) → List (String × α)
  | [] => [(name, value)]
  | (k, v) :: rest => if k = name then (k, value) :: rest else (k, v) :: put name value rest

/-- The entries with each name once, at its first place and with its last value. -/
def ofList (pairs : List (String × α)) : List (String × α) :=
  pairs.foldl (fun entries p => put p.1 p.2 entries) []

theorem lookup_put_self (name : String) (value : α) (entries : List (String × α)) :
    (put name value entries).lookup name = some value := by
  induction entries with
  | nil => simp [put]
  | cons p rest ih =>
    obtain ⟨k, v⟩ := p
    by_cases h : k = name
    · simp [put, h]
    · have h' : (name == k) = false := by simpa using fun e => h e.symm
      simp [put, h, List.lookup_cons, h', ih]

theorem lookup_put_of_ne {name other : String} (h : other ≠ name) (value : α)
    (entries : List (String × α)) : (put name value entries).lookup other = entries.lookup other := by
  induction entries with
  | nil =>
    have h' : (other == name) = false := by simpa using h
    simp [put, List.lookup_cons, h']
  | cons p rest ih =>
    obtain ⟨k, v⟩ := p
    by_cases hk : k = name
    · have h' : (other == k) = false := by simpa [hk] using h
      simp [put, hk, List.lookup_cons, hk ▸ h']
    · simp only [put, hk, if_false, List.lookup_cons, ih]

/-- The names after a put: a new one goes to the end. -/
theorem names_put (name : String) (value : α) (entries : List (String × α)) :
    (put name value entries).map (·.1)
      = if name ∈ entries.map (·.1) then entries.map (·.1) else entries.map (·.1) ++ [name] := by
  induction entries with
  | nil => simp [put]
  | cons p rest ih =>
    obtain ⟨k, v⟩ := p
    by_cases h : k = name
    · simp [put, h]
    · have h' : name ≠ k := fun e => h e.symm
      by_cases hm : name ∈ rest.map (·.1) <;> simp_all [put]

theorem nodup_put (name : String) (value : α) {entries : List (String × α)} (h : (entries.map (·.1)).Nodup) :
    ((put name value entries).map (·.1)).Nodup := by
  rw [names_put]
  split
  · exact h
  · next hnew =>
    refine List.nodup_append.mpr ⟨h, by simp, fun k hk other hother => ?_⟩
    rintro rfl
    exact hnew (List.mem_singleton.mp hother ▸ hk)

/-- Each name comes once. -/
theorem nodup_ofList (pairs : List (String × α)) : ((ofList pairs).map (·.1)).Nodup := by
  have hfold : ∀ entries : List (String × α), (entries.map (·.1)).Nodup →
      ((pairs.foldl (fun entries p => put p.1 p.2 entries) entries).map (·.1)).Nodup := by
    induction pairs with
    | nil => exact fun _ h => h
    | cons p pairs ih => exact fun entries h => ih _ (nodup_put p.1 p.2 h)
  exact hfold [] List.nodup_nil

/-- What is put under a name leaves the entries of other names as they are. -/
theorem filter_put (p : String → Bool) {name : String} (h : p name = false) (value : α)
    (entries : List (String × α)) :
    (put name value entries).filter (fun e => p e.1) = entries.filter fun e => p e.1 := by
  induction entries with
  | nil => simp [put, h]
  | cons e rest ih =>
    obtain ⟨k, v⟩ := e
    by_cases hk : k = name
    · subst hk
      simp [put, h]
    · simp only [put, hk, if_false, List.filter_cons, ih]

theorem filter_eq_nil {name : String} {entries : List (String × α)} (h : name ∉ entries.map (·.1)) :
    (entries.filter fun e => e.1 == name) = [] := by
  refine List.filter_eq_nil_iff.mpr fun e he hname => h ?_
  rw [← eq_of_beq hname]
  exact List.mem_map_of_mem he

/-- A name that comes once has the value that was put under it last. -/
theorem filter_put_self (name : String) (value : α) {entries : List (String × α)} (h : (entries.map (·.1)).Nodup) :
    ((put name value entries).filter fun e => e.1 == name) = [(name, value)] := by
  induction entries with
  | nil => simp [put]
  | cons e rest ih =>
    obtain ⟨k, v⟩ := e
    rw [List.map_cons, List.nodup_cons] at h
    by_cases hk : k = name
    · subst hk
      simp [put, filter_eq_nil h.1]
    · have hk' : (k == name) = false := by simpa using hk
      simp only [put, hk, if_false, List.filter_cons, hk', ih h.2, Bool.false_eq_true]

/-- A name that comes once has the value of its entry. -/
theorem lookup_eq_some_iff {name : String} {value : α} {entries : List (String × α)}
    (hnodup : (entries.map (·.1)).Nodup) : entries.lookup name = some value ↔ (name, value) ∈ entries := by
  induction entries with
  | nil => simp
  | cons e entries ih =>
    obtain ⟨k, v⟩ := e
    rw [List.map_cons, List.nodup_cons] at hnodup
    rw [List.lookup_cons, List.mem_cons, Prod.mk.injEq]
    by_cases hk : name = k
    · subst hk
      have hnone : (name, value) ∉ entries := fun h => hnodup.1 (List.mem_map.mpr ⟨_, h, rfl⟩)
      simp [hnone, eq_comm]
    · rw [beq_false_of_ne hk]
      simp [hk, ih hnodup.2]

/-- Where each name comes once, a value is found among the entries whose values are as `p` tells just if it is one. -/
theorem lookup_filter {name : String} {entries : List (String × α)} (hnodup : (entries.map (·.1)).Nodup)
    (p : α → Bool) : (entries.filter fun e => p e.2).lookup name = (entries.lookup name).filter p := by
  have hkept : ((entries.filter fun e => p e.2).map (·.1)).Nodup := hnodup.sublist (List.filter_sublist.map _)
  ext value
  rw [lookup_eq_some_iff hkept, List.mem_filter, Option.filter_eq_some_iff, lookup_eq_some_iff hnodup]

end SinkKeeper.Entries
