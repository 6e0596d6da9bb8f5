import SinkKeeper.Proofs.Descriptions

/-!
# What messages show

Messages show values in words of their own: whatever cannot be printed is escaped. So what they hold can be printed,
and a response that tells one has bytes for it.
-/

namespace SinkKeeper

/-! ## Texts that can be printed -/

namespace Text

namespace Printable

variable {s t separator : String}

theorem append (hs : Printable s) (ht : Printable t) : Printable (s ++ t) := by
  intro c hc
  rw [String.toList_append, List.mem_append] at hc
  exact hc.elim (hs c) (ht c)

theorem ofList {cs : List Char} (h : ∀ c ∈ cs, isPrintable c = true) : Printable (String.ofList cs) := by
  intro c hc
  rw [String.toList_ofList] at hc
  exact h c hc

theorem join (hseparator : Printable separator) {texts : List String} (h : ∀ s ∈ texts, Printable s) :
    Printable (Text.join separator texts) := by
  induction texts with
  | nil => exact fun c hc => absurd hc List.not_mem_nil
  | cons s rest ih =>
      obtain ⟨hs, hrest⟩ := List.forall_mem_cons.mp h
      cases rest with
      | nil => exact hs
      | cons t more => exact (hs.append hseparator).append (ih hrest)

end Printable

theorem isPrintable_digit {n : Nat} {c : Char} (h : c ∈ Nat.toDigits 10 n) : isPrintable c = true := by
  have hdigit : 48 ≤ c.toNat ∧ c.toNat ≤ 57 :=
    Char.isDigit_iff_toNat.mp (Nat.isDigit_of_mem_toDigits (by decide) (by decide) h)
  rw [isPrintable, if_pos (by omega), decide_eq_true_iff]
  omega

theorem Printable.natural (n : Nat) : Printable (toString n) := .ofList fun _ => isPrintable_digit

theorem isPrintable_hexDigits {width n : Nat} : ∀ c ∈ hexDigits width n, isPrintable c = true := by
  have hdigits : ∀ k < 16, isPrintable (Nat.digitChar k) = true := by decide
  induction width generalizing n with
  | zero => exact List.forall_mem_nil _
  | succ width ih =>
      rw [hexDigits]
      exact List.forall_mem_append.mpr ⟨ih, List.forall_mem_singleton.mpr (hdigits _ (Nat.mod_lt _ (by decide)))⟩

variable [Runtime]

theorem isPrintable_escapedCode (c : Char) : ∀ e ∈ escapedCode c, isPrintable e = true := by
  unfold escapedCode
  dsimp only
  split
  · exact List.forall_mem_cons.mpr ⟨rfl, List.forall_mem_cons.mpr ⟨rfl, isPrintable_hexDigits⟩⟩
  · split
    all_goals exact List.forall_mem_cons.mpr ⟨rfl, List.forall_mem_cons.mpr ⟨rfl, isPrintable_hexDigits⟩⟩

theorem isPrintable_quotedChar {quote : Char} (hquote : isPrintable quote = true) (c : Char) :
    ∀ e ∈ quotedChar quote c, isPrintable e = true := by
  unfold quotedChar
  split
  next hescaped =>
    have hc : isPrintable c = true := by
      rcases hescaped with rfl | rfl
      · exact hquote
      · rfl
    simp [hc, show isPrintable '\x5c' = true from rfl]
  -- Three characters have a short escape.
  · iterate 3
      split
      · exact List.all_eq_true.mp rfl
    split
    next hc => exact List.forall_mem_singleton.mpr hc
    · exact isPrintable_escapedCode c

/-- What stands between quotes, and the quotes themselves. -/
theorem printable_quoted (s : String) : Printable (quoted s) := by
  have hquote : isPrintable (quoteFor s.toList) = true := by
    unfold quoteFor
    split <;> rfl
  refine .ofList (List.forall_mem_cons.mpr ⟨hquote, List.forall_mem_append.mpr ⟨fun e he => ?_, ?_⟩⟩)
  · obtain ⟨c, -, hmem⟩ := List.mem_flatMap.mp he
    exact isPrintable_quotedChar hquote c e hmem
  · exact List.forall_mem_singleton.mpr hquote

end Text

open Text (Printable)

/-! ## Numbers -/

namespace Number

theorem printable_writeInt (n : Int) : Printable (writeInt n) := by
  have hdigits : Printable (String.ofList (Nat.toDigits 10 n.natAbs)) := .ofList fun _ => Text.isPrintable_digit
  unfold writeInt
  split
  · exact Printable.append (by decide) hdigits
  · exact hdigits

/-- A layout of digits shows them, zeros, a point, an exponent and signs. -/
theorem printable_layOut {digits : List Char} (h : ∀ c ∈ digits, Text.isPrintable c = true) (point : Int) :
    ∀ c ∈ layOut digits point, Text.isPrintable c = true := by
  have hzeros : ∀ count, ∀ c ∈ List.replicate count '0', Text.isPrintable c = true := by
    intro count c hc
    cases List.eq_of_mem_replicate hc
    rfl
  have hexponent : ∀ e, ∀ c ∈ writeExponent e, Text.isPrintable c = true := by
    intro e
    unfold writeExponent
    dsimp only
    refine List.forall_mem_cons.mpr ⟨by split <;> rfl, ?_⟩
    split
    · exact List.forall_mem_cons.mpr ⟨rfl, fun _ => Text.isPrintable_digit⟩
    · exact fun _ => Text.isPrintable_digit
  have hpoint : Text.isPrintable '.' = true := rfl
  have hzero : Text.isPrintable '0' = true := rfl
  have hmark : Text.isPrintable 'e' = true := rfl
  unfold layOut
  split
  · split
    · simp only [List.forall_mem_cons, List.forall_mem_append]
      exact ⟨hzero, hpoint, hzeros _, h⟩
    · split
      · simp only [List.forall_mem_cons, List.forall_mem_append]
        exact ⟨⟨h, hzeros _⟩, hpoint, hzero, List.forall_mem_nil _⟩
      · simp only [List.forall_mem_cons, List.forall_mem_append]
        exact ⟨fun c hc => h c (List.mem_of_mem_take hc), hpoint, fun c hc => h c (List.mem_of_mem_drop hc)⟩
  · split
    · exact List.forall_mem_nil _
    · simp only [List.forall_mem_cons] at h ⊢
      exact ⟨h.1, hmark, hexponent _⟩
    · simp only [List.forall_mem_cons, List.forall_mem_append] at h ⊢
      exact ⟨h.1, hpoint, h.2, hmark, hexponent _⟩

theorem printable_writeDouble (x : Double) : Printable (writeDouble x) := by
  cases x with
  | nan => decide
  | infinite negative => cases negative <;> decide
  | finite negative m e =>
      have hbody : ∀ c ∈ (if m = 0 then ['0', '.', '0'] else (shortest m e).laidOut), Text.isPrintable c = true := by
        split
        · exact List.all_eq_true.mp rfl
        · refine printable_layOut (fun c hc => ?_) _
          rw [List.mem_reverse] at hc
          exact Text.isPrintable_digit (List.mem_reverse.mp ((List.dropWhile_suffix _).subset hc))
      refine .ofList ?_
      split
      · exact List.forall_mem_cons.mpr ⟨rfl, hbody⟩
      · exact hbody

theorem printable_write (n : Numeral) : Printable n.write := by
  cases n with
  | whole n => exact printable_writeInt n
  | real x => exact printable_writeDouble x

end Number

/-! ## Values -/

namespace Json

theorem Kind.printable_name (kind : Kind) : Printable kind.name := by
  cases kind <;> decide

variable [Runtime]

mutual
theorem printable_shown : ∀ j : Json, Printable j.shown
  | .null => show Printable "None" by decide
  | .bool true => show Printable "True" by decide
  | .bool false => show Printable "False" by decide
  | .number n => Number.printable_write n
  | .string s => Text.printable_quoted s
  | .array items => by
      have hitems : Printable (Text.join ", " (shownItems items)) := .join (by decide) (printable_shownItems items)
      exact (Printable.append (by decide) hitems).append (by decide)
  | .object fields => by
      have hfields : Printable (Text.join ", " (shownFields fields)) := .join (by decide) (printable_shownFields fields)
      exact (Printable.append (by decide) hfields).append (by decide)

theorem printable_shownItems : ∀ items : List Json, ∀ s ∈ shownItems items, Printable s
  | [] => List.forall_mem_nil _
  | item :: rest => List.forall_mem_cons.mpr ⟨printable_shown item, printable_shownItems rest⟩

theorem printable_shownFields : ∀ fields : List (String × Json), ∀ s ∈ shownFields fields, Printable s
  | [] => List.forall_mem_nil _
  | (key, value) :: rest => List.forall_mem_cons.mpr
      ⟨((Text.printable_quoted key).append (by decide)).append (printable_shown value), printable_shownFields rest⟩
end

end Json

/-! ## Errors -/

theorem Json.printable_tooLong (digits : Nat) : Printable (Json.tooLongMessage digits) := by
  unfold Json.tooLongMessage
  refine Printable.append (Printable.append ?_ ?_) ?_
  · decide +kernel
  · exact Printable.natural digits
  · decide +kernel

/-- What a sender is told of an error can be printed, whatever the description held. -/
theorem ShapeError.Senders.printable [Runtime] {e : ShapeError} (h : e.Senders) : Printable e.message := by
  cases e with
  | missingField key => exact Text.printable_quoted key
  | noFields kind =>
      have hother : Printable ("'" ++ kind.name ++ "' object is not subscriptable") :=
        (Printable.append (by decide) kind.printable_name).append (by decide)
      cases kind with
      | list => exact show Printable "list indices must be integers or slices, not str" by decide
      | text => exact show Printable "string indices must be integers, not 'str'" by decide
      | _ => exact hother
  | noItems kind => exact (Printable.append (by decide) kind.printable_name).append (by decide)
  | notText kind => exact (Printable.append (by decide) kind.printable_name).append (by decide)
  | notNumber kind => exact (Printable.append (by decide) kind.printable_name).append (by decide)
  | notNumeral text =>
      exact Printable.append (by decide)
        (.ofList fun c hc => Text.printable_quoted text c (List.mem_of_mem_take hc))
  | numeralTooLong digits => exact Json.printable_tooLong digits
  | nanNumber => exact show Printable "cannot convert float NaN to integer" by decide
  | notTables => exact show Printable "expected a list of tables" by decide
  | unwritable => exact show Printable "Out of range float values are not JSON compliant" by decide
  | unencodable => exact show Printable "surrogates not allowed" by decide
  | wrongCode value => exact Printable.append (by decide) value.printable_shown
  | notTable entry => exact Printable.append (by decide) entry.printable_shown
  | noOperation | infiniteNumber | shortRow => simp [Senders, ShapeError.family] at h

end SinkKeeper
