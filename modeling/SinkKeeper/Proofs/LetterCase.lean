import Mathlib.Data.List.Basic
import SinkKeeper.Text.Case
import SinkKeeper.Text.Search

/-!
# Letter case of plain words

A word of plain letters is met in a lowered text just where the text has these letters in either case. No character
beyond ASCII can stand in for one of them, but for two letters: the Kelvin sign lowers to `k`, and a capital `I` with a
dot lowers to `i` with a mark after it.
-/

namespace SinkKeeper.Text

variable {n m : Nat} {c d : Char} {cs rest word tail before : List Char}

/-! ## Characters beyond ASCII -/

/-- The other forms of a run's characters are all beyond ASCII, or the run is the Kelvin sign. -/
def CaseRun.Foreign (run : CaseRun) : Prop :=
  (128 ≤ run.first + run.shift ∧
      (run.last + run.shift < 0xD800 ∨ 0xDFFF < run.first + run.shift ∧ run.last + run.shift < 0x110000)) ∨
    run.first = 0x212A ∧ run.last = 0x212A ∧ run.shift = -8383

instance : DecidablePred CaseRun.Foreign := fun _ => inferInstanceAs (Decidable (_ ∨ _))

theorem CaseRun.Foreign.image {run : CaseRun} (h : run.Foreign) (hm : run.image? n = some m) :
    m = 'k'.toNat ∨ 128 ≤ m ∧ m.isValidChar := by
  unfold CaseRun.image? at hm
  split at hm
  next hin =>
    cases hm
    obtain ⟨hfirst, hlast, -⟩ := hin
    rcases h with ⟨hlow, hhigh⟩ | ⟨hf, hl, hs⟩
    · refine .inr ⟨by omega, ?_⟩
      rw [Nat.isValidChar]
      omega
    · have hk : 'k'.toNat = 107 := rfl
      omega
  next => cases hm

theorem lowerRuns_foreign : ∀ run ∈ lowerRuns, run.Foreign := by decide +kernel

/-! ## Words of sole letters -/

/-- An ASCII character that no character beyond ASCII lowers to. -/
def Sole (c : Char) : Prop := c.toNat < 128 ∧ c ≠ 'k' ∧ c ≠ 'i'

instance : DecidablePred Sole := fun _ => inferInstanceAs (Decidable (_ ∧ _ ∧ _))

theorem not_sole_lowerChar (h : 128 ≤ c.toNat) (hd : d ∈ (lowerChar c).head?) : ¬Sole d := by
  rintro ⟨hascii, hk, hi⟩
  unfold lowerChar at hd
  rw [if_neg (by omega)] at hd
  split at hd
  · cases hd
    exact hi rfl
  · cases himage : runImage? lowerRuns c.toNat with
    | none =>
        rw [himage] at hd
        cases hd
        exact absurd hascii (by simpa using h)
    | some m =>
        rw [himage] at hd
        cases hd
        obtain ⟨run, hrun, hm⟩ := List.exists_of_findSome?_eq_some himage
        rcases (lowerRuns_foreign run hrun).image hm with rfl | ⟨hm, hvalid⟩
        · exact hk rfl
        · have hn : (Char.ofNat m).toNat = m := by
            rw [Char.ofNat, dif_pos hvalid]
            rfl
          exact absurd hascii (by simpa [hn] using hm)

theorem lowerChar_ne_nil : lowerChar c ≠ [] := by
  unfold lowerChar
  split
  · simp
  · split <;> simp

theorem toLower_of_not_ascii (h : 128 ≤ c.toNat) : c.toLower = c := by
  have hz : ¬c.val ≤ 'Z'.val := fun hle => absurd (show c.toNat ≤ 90 from hle) (by omega)
  unfold Char.toLower
  rw [dif_neg fun hc => hz hc.2]

theorem not_sole_lowerAfter (h : 128 ≤ c.toNat) (hd : d ∈ (lowerAfter before (c :: rest)).head?) : ¬Sole d := by
  rw [lowerAfter] at hd
  split at hd
  · split at hd <;> cases hd <;> decide
  · refine not_sole_lowerChar h ?_
    rwa [List.head?_append_of_ne_nil _ lowerChar_ne_nil] at hd

/-- A lowered text starts with a sole letter just if it starts with that letter in either case. -/
theorem lowerAfter_cons_iff (hd : Sole d) :
    lowerAfter before (c :: rest) = d :: tail ↔ c.toLower = d ∧ lowerAfter (c :: before) rest = tail := by
  by_cases hc : c.toNat < 128
  · have hne : c ≠ '\u03A3' := by
      rintro rfl
      exact absurd hc (by decide)
    rw [lowerAfter, if_neg hne, lowerChar, if_pos hc, List.singleton_append, List.cons_eq_cons]
  · -- Neither side can hold of a character beyond ASCII.
    have hlow : 128 ≤ c.toNat := by omega
    constructor
    · intro heq
      exact absurd hd (not_sole_lowerAfter hlow (by rw [heq]; rfl))
    · rintro ⟨hlower, -⟩
      rw [toLower_of_not_ascii hlow] at hlower
      exact absurd (hlower ▸ hd).1 hc

theorem lowerAfter_eq_nil_iff : lowerAfter before cs = [] ↔ cs = [] := by
  cases cs with
  | nil => simp [lowerAfter]
  | cons c rest =>
      simp only [lowerAfter, List.append_eq_nil_iff, reduceCtorEq, iff_false, not_and]
      intro hform
      split at hform
      · split at hform <;> cases hform
      · exact absurd hform lowerChar_ne_nil

/-- A lowered text starts with a word of sole letters just if it starts with these letters in either case. -/
theorem lowerAfter_eq_append_iff (hw : ∀ d ∈ word, Sole d) :
    lowerAfter before cs = word ++ tail ↔
      ∃ first rest, cs = first ++ rest ∧ first.map Char.toLower = word ∧
        lowerAfter (first.reverse ++ before) rest = tail := by
  induction word generalizing before cs with
  | nil =>
      simp only [List.map_eq_nil_iff]
      constructor
      · exact fun h => ⟨[], cs, rfl, rfl, h⟩
      · rintro ⟨_, _, rfl, rfl, h⟩
        exact h
  | cons d word ih =>
      have hword : ∀ e ∈ word, Sole e := fun e he => hw e (List.mem_cons_of_mem d he)
      cases cs with
      | nil => simp [lowerAfter]
      | cons c cs =>
          rw [List.cons_append, lowerAfter_cons_iff (hw d List.mem_cons_self), ih hword]
          constructor
          · rintro ⟨hc, first, rest, rfl, hfirst, htail⟩
            exact ⟨c :: first, rest, rfl, by rw [List.map_cons, hc, hfirst], by simpa using htail⟩
          · rintro ⟨first, rest, heq, hfirst, htail⟩
            obtain ⟨e, first, rfl, hc, hmap⟩ := List.map_eq_cons_iff.mp hfirst
            obtain ⟨rfl, rfl⟩ := List.cons_eq_cons.mp heq
            exact ⟨hc, first, rest, rfl, hmap, by simpa using htail⟩

theorem startsWith_lower_iff {s w : String} (hw : ∀ d ∈ w.toList, Sole d) :
    startsWith (lower s) w = true ↔
      ∃ first rest, s.toList = first ++ rest ∧ first.map Char.toLower = w.toList := by
  rw [startsWith, List.isPrefixOf_iff_prefix, lower, String.toList_ofList]
  constructor
  · rintro ⟨tail, htail⟩
    obtain ⟨first, rest, hs, hfirst, -⟩ := (lowerAfter_eq_append_iff hw).mp htail.symm
    exact ⟨first, rest, hs, hfirst⟩
  · rintro ⟨first, rest, hs, hfirst⟩
    exact ⟨_, ((lowerAfter_eq_append_iff hw).mpr ⟨first, rest, hs, hfirst, rfl⟩).symm⟩

theorem lower_eq_iff {s w : String} (hw : ∀ d ∈ w.toList, Sole d) :
    lower s = w ↔ s.toList.map Char.toLower = w.toList := by
  have hl : lower s = w ↔ lowerAfter [] s.toList = w.toList ++ [] := by
    rw [List.append_nil, ← String.toList_inj, lower, String.toList_ofList]
  rw [hl, lowerAfter_eq_append_iff hw]
  constructor
  · rintro ⟨first, rest, hs, hfirst, hrest⟩
    rw [lowerAfter_eq_nil_iff] at hrest
    rw [hs, hrest, List.append_nil, hfirst]
  · intro hs
    exact ⟨s.toList, [], (List.append_nil _).symm, hs, rfl⟩

end SinkKeeper.Text
