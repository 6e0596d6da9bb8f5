import Mathlib.Data.List.DropRight
import SinkKeeper.Environment.Loading
import SinkKeeper.Proofs.LetterCase
import SinkKeeper.Token

/-!
# Bearer tokens

Which headers are let in. The header is trimmed before it is read, and so is the token it carries, but the configured
token is compared as it stands: one that begins or ends with a blank is met by no header.
-/

namespace SinkKeeper

open Text (strip isBlank trimWith)

/-! ## Trimmed texts -/

namespace Text

variable {p : Char → Bool} {c : Char} {cs ds : List Char}

theorem trimWith_eq (p : Char → Bool) (cs : List Char) : trimWith p cs = (cs.dropWhile p).rdropWhile p := rfl

theorem dropWhile_trimWith : (trimWith p cs).dropWhile p = trimWith p cs := by
  rw [List.dropWhile_eq_self_iff]
  intro hl
  have hpre : trimWith p cs <+: cs.dropWhile p := List.rdropWhile_prefix p _
  rw [hpre.getElem hl]
  exact List.dropWhile_get_zero_not p cs (hl.trans_le hpre.length_le)

theorem rdropWhile_trimWith : (trimWith p cs).rdropWhile p = trimWith p cs := List.rdropWhile_idempotent ..

theorem trimWith_trimWith : trimWith p (trimWith p cs) = trimWith p cs := by
  rw [trimWith_eq p (trimWith p cs), dropWhile_trimWith, rdropWhile_trimWith]

theorem strip_strip (s : String) : strip (strip s) = strip s := by
  rw [strip, strip, String.toList_ofList, trimWith_trimWith]

theorem strip_eq_self_iff {s : String} : strip s = s ↔ trimWith isBlank s.toList = s.toList := by
  rw [← String.toList_inj, strip, String.toList_ofList]

/-- A text that ends with a trimmed text, and starts with another character than those to trim, is trimmed. -/
theorem trimWith_cons_append (hc : p c = false) (hds : trimWith p ds = ds) (hne : ds ≠ []) :
    trimWith p (c :: cs ++ ds) = c :: cs ++ ds := by
  have hlast : ¬p (ds.getLast hne) := List.rdropWhile_eq_self_iff.mp (hds ▸ rdropWhile_trimWith) hne
  rw [trimWith_eq, List.cons_append, List.dropWhile_cons_of_neg (by simp [hc]), ← List.cons_append,
    List.rdropWhile_eq_self_iff]
  intro hl
  rwa [List.getLast_append_of_ne_nil hl hne]

/-- A trimmed text does not end with characters that are to trim. -/
theorem not_all_of_trimWith (h : trimWith p (cs ++ ds) = cs ++ ds) (hne : ds ≠ []) : ¬∀ c ∈ ds, p c = true := by
  intro hall
  have hl : cs ++ ds ≠ [] := List.append_ne_nil_of_right_ne_nil cs hne
  have hlast := List.rdropWhile_eq_self_iff.mp (h ▸ rdropWhile_trimWith) hl
  rw [List.getLast_append_of_ne_nil hl hne] at hlast
  exact hlast (hall _ (List.getLast_mem hne))

end Text

/-! ## Headers -/

variable {header token text s : String}

/-- The header, trimmed, is the word "bearer" in any ASCII letter case, one space and the text. -/
def Carries (header text : String) : Prop :=
  ∃ word, (strip header).toList = word ++ ' ' :: text.toList ∧ word.map Char.toLower = "bearer".toList

/-- The header carries the token, blanks around it aside. -/
def Bears (header token : String) : Prop := ∃ text, Carries header text ∧ strip text = strip token

theorem Carries.unique {other : String} (h : Carries header text) (ho : Carries header other) : text = other := by
  obtain ⟨word, heq, hword⟩ := h
  obtain ⟨word', heq', hword'⟩ := ho
  have hlen : word.length = word'.length := by
    rw [← List.length_map Char.toLower, hword, ← hword', List.length_map]
  obtain ⟨-, htail⟩ := List.append_inj (heq.symm.trans heq') hlen
  exact String.toList_inj.mp (List.cons_eq_cons.mp htail).2

theorem Bears.unique {other : String} (h : Bears header token) (ho : Bears header other) :
    strip token = strip other := by
  obtain ⟨text, hcarries, htext⟩ := h
  obtain ⟨text', hcarries', htext'⟩ := ho
  rw [← htext, hcarries.unique hcarries', htext']

theorem eq_space_of_toLower {c : Char} (h : c.toLower = ' ') : c = ' ' := by
  unfold Char.toLower at h
  split at h
  next hc =>
    have hsum : c.val + 32 = 32 := congrArg Char.val h
    have hlow : 65 ≤ c.val := hc.1
    have hhigh : c.val ≤ 90 := hc.2
    grind
  next => exact h

theorem toList_bearerWord : bearerWord.toList = "bearer".toList ++ [' '] := by decide +kernel

/-- The word and the space are met in the lowered header just where they stand in the header itself. -/
theorem carries_iff :
    Carries header text ↔
      Text.startsWith (Text.lower (strip header)) bearerWord = true ∧
        (strip header).toList.drop bearerWord.length = text.toList := by
  -- Neither of the two letters with a foreign capital is in the word.
  have hsole : ∀ d ∈ bearerWord.toList, Text.Sole d := List.forall_iff_forall_mem.mp (by decide +kernel)
  have hlength : bearerWord.length = "bearer".toList.length + 1 := by
    rw [← String.length_toList, toList_bearerWord, List.length_append, List.length_singleton]
  rw [Text.startsWith_lower_iff hsole, toList_bearerWord, hlength]
  constructor
  · rintro ⟨word, heq, hword⟩
    have hhead : (strip header).toList = (word ++ [' ']) ++ text.toList := by rw [heq, List.append_cons]
    refine ⟨⟨word ++ [' '], text.toList, hhead, ?_⟩, ?_⟩
    · rw [List.map_append, hword]
      rfl
    · rw [hhead, ← hword, List.length_map]
      exact List.drop_left' (List.length_append ..)
  · rintro ⟨⟨first, rest, heq, hfirst⟩, hdrop⟩
    obtain ⟨word, space, rfl, hword, hspace⟩ := List.map_eq_append_iff.mp hfirst
    obtain ⟨c, rfl, hc⟩ := List.map_eq_singleton_iff.mp hspace
    obtain rfl := eq_space_of_toLower hc
    have hhead : (word ++ [' ']).length = word.length + 1 := List.length_append
    rw [heq, ← hword, List.length_map, List.drop_left' hhead] at hdrop
    exact ⟨word, by rw [heq, hdrop, ← List.append_cons], hword⟩

theorem bearerToken?_eq_some : bearerToken? header = some s ↔ ∃ text, Carries header text ∧ strip text = s := by
  simp only [carries_iff, bearerToken?]
  split
  next hstart =>
    rw [Option.some.injEq]
    constructor
    · intro hs
      exact ⟨_, ⟨hstart, String.toList_ofList.symm⟩, hs⟩
    · rintro ⟨text, ⟨-, hdrop⟩, hs⟩
      rw [hdrop, String.ofList_toList, hs]
  next hstart =>
    constructor
    · exact fun hs => absurd hs (by simp)
    · rintro ⟨_, ⟨h, -⟩, -⟩
      exact absurd h hstart

theorem tokenMatches_eq_true (h : token ≠ "") :
    tokenMatches (some header) (some token) = true ↔ Bears header token ∧ strip token = token := by
  have hne : (token != "") = true := bne_iff_ne.mpr h
  rw [tokenMatches, hne, Bool.true_and, beq_iff_eq, bearerToken?_eq_some]
  constructor
  · rintro ⟨text, hcarries, rfl⟩
    exact ⟨⟨text, hcarries, (Text.strip_strip text).symm⟩, Text.strip_strip text⟩
  · rintro ⟨⟨text, hcarries, htext⟩, hstrip⟩
    exact ⟨text, hcarries, htext.trans hstrip⟩

/-! ## The usual header -/

theorem ne_nil_of_ne_empty (h : s ≠ "") : s.toList ≠ [] := mt String.toList_eq_nil_iff.mp h

theorem strip_usual (h : strip token = token) (hne : token ≠ "") : strip ("Bearer " ++ token) = "Bearer " ++ token := by
  rw [Text.strip_eq_self_iff] at h ⊢
  rw [String.toList_append]
  exact Text.trimWith_cons_append (by decide) h (ne_nil_of_ne_empty hne)

theorem carries_usual (h : strip token = token) (hne : token ≠ "") : Carries ("Bearer " ++ token) token := by
  refine ⟨"Bearer".toList, ?_, by decide +kernel⟩
  rw [strip_usual h hne, String.toList_append]
  rfl

/-- No header carries a token that is nothing but blanks: the header is trimmed first. -/
theorem not_bears_of_blank (h : strip token = "") : ¬Bears header token := by
  rintro ⟨text, ⟨word, heq, -⟩, htext⟩
  have hall : ∀ c ∈ ' ' :: text.toList, isBlank c = true := by
    obtain ⟨left, right, hsplit, hleft, hright⟩ := Text.trimWith_between isBlank text.toList
    have hnil : trimWith isBlank text.toList = [] := by
      rw [← String.toList_ofList (l := trimWith isBlank text.toList), ← strip, htext, h]
      rfl
    rw [hsplit, hnil, List.append_nil]
    intro c hc
    rcases List.mem_cons.mp hc with rfl | hc
    · decide
    · exact (List.mem_append.mp hc).elim (hleft c) (hright c)
  have htrim : trimWith isBlank (strip header).toList = (strip header).toList := by
    rw [← Text.strip_eq_self_iff, Text.strip_strip]
  rw [heq] at htrim
  exact Text.not_all_of_trimWith htrim (List.cons_ne_nil _ _) hall

/-! ## Who is let in -/

/-- A header is let in just if it carries the token and the token is trimmed as it stands. So a token that has blanks
around it is met by no header, not even by the usual one. -/
theorem tokenMatches_iff_bears (h : token ≠ "") :
    (∀ header, tokenMatches (some header) (some token) = true ↔ Bears header token ∧ strip token = token) ∧
    ((∀ header, tokenMatches (some header) (some token) = true ↔ Bears header token) ↔
      strip token = token ∨ strip token = "") ∧
    (tokenMatches (some ("Bearer " ++ token)) (some token) = true ↔ strip token = token) ∧
    ∀ header other, tokenMatches (some header) (some token) = true → Bears header other → strip other = token := by
  refine ⟨fun _ => tokenMatches_eq_true h, ⟨fun hiff => ?_, fun hstrip header => ?_⟩, ?_, ?_⟩
  · by_cases hblank : strip token = ""
    · exact .inr hblank
    · refine .inl ((tokenMatches_eq_true h).mp ((hiff ("Bearer " ++ strip token)).mpr ?_)).2
      exact ⟨strip token, carries_usual (Text.strip_strip token) hblank, Text.strip_strip token⟩
  · rw [tokenMatches_eq_true h]
    rcases hstrip with hstrip | hblank
    · exact and_iff_left hstrip
    · exact ⟨And.left, fun hbears => absurd hbears (not_bears_of_blank hblank)⟩
  · rw [tokenMatches_eq_true h]
    exact ⟨And.right, fun hstrip => ⟨⟨token, carries_usual hstrip h, rfl⟩, hstrip⟩⟩
  · intro header other hmatches hother
    obtain ⟨hbears, hstrip⟩ := (tokenMatches_eq_true h).mp hmatches
    rw [hother.unique hbears, hstrip]

theorem tokenMatches_iff_bears_secret :
    "secret" ≠ "" ∧ tokenMatches (some "Bearer secret") (some "secret") = true :=
  ⟨by decide, (@tokenMatches_iff_bears "secret" (by decide)).2.2.1.mpr (by decide +kernel)⟩

/-- Surroundings whose vault holds the token with a line feed at its end. -/
def lineFeedSurroundings : Surroundings :=
  ⟨⟨[]⟩, ⟨[]⟩, .ofList [("KEYVAULT_NAME", "keys")], .ofList [("API-AUTH-TOKEN", .held (some "secret\n"))]⟩

/-- The token that is set once the surroundings are loaded. -/
def Surroundings.token? (s : Surroundings) : Option String :=
  match s.load with
  | .ok () loading => loading.environment.get? "API_AUTH_TOKEN"
  | .error .. => none

/-- A token that a vault holds with a line feed at its end lets in no header that carries it. -/
theorem tokenMatches_lineFeed :
    lineFeedSurroundings.token? = some "secret\n" ∧ Bears "Bearer secret\n" "secret\n" ∧
      tokenMatches (some "Bearer secret\n") (some "secret\n") = false := by
  exact ⟨by decide +kernel, ⟨"secret", carries_iff.mpr (by decide +kernel), by decide +kernel⟩, by decide +kernel⟩

end SinkKeeper
