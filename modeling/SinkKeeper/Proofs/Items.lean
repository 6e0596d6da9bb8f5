import SinkKeeper.Proofs.Lexing

/-!
# Items of a list

A list in a statement stands between parentheses; its items are separated by commas. Only commas and brackets
outside of names and literals count, and commas inside of further brackets belong to an item. A text is
`Contained` if it can be an item: it closes no bracket that it did not open, leaves none open and has no comma
of its own outside of brackets.
-/

namespace SinkKeeper.Sql

/-! ## Brackets -/

/-- How a character changes the depth of brackets. -/
def bracket (c : Char) : Int :=
  if c = '(' ∨ c = '<' then 1 else if c = ')' ∨ c = '>' then -1 else 0

def closes (c : Char) : Bool := c = ')' || c = '>'

/-- Where a reader of items stands: in which kind of text, and in how many brackets. -/
structure Spot where
  place : Lexing
  depth : Int
deriving DecidableEq, Repr

def Spot.top : Spot := ⟨.outside, 0⟩

def Spot.next (s : Spot) (c : Char) : Spot where
  place := s.place.next c
  depth := if s.place = .outside then s.depth + bracket c else s.depth

/-- Where the reader stands after a text, nowhere if it met the end of an item. -/
def within : Spot → List Char → Option Spot
  | s, [] => some s
  | s, c :: cs => if s = .top ∧ (c = ',' ∨ closes c = true) then none else within (s.next c) cs

def Contained (cs : List Char) : Prop := within .top cs = some .top

instance (cs : List Char) : Decidable (Contained cs) := inferInstanceAs (Decidable (_ = _))

/-! ## Lists -/

/-- Reads the items up to the bracket that closes the list, if `item` was read of the first. What follows the
bracket is the rest. -/
def readItems : Spot → List Char → List Char → Option (List (List Char) × List Char)
  | _, _, [] => none
  | s, item, c :: cs =>
    if s = .top ∧ c = ',' then (readItems .top [] cs).map fun (items, rest) => (item :: items, rest)
    else if s = .top ∧ closes c = true then some ([item], cs)
    else readItems (s.next c) (item ++ [c]) cs

def firstList : Lexing → List Char → Option (List (List Char) × List Char)
  | _, [] => none
  | place, c :: cs =>
    if place = .outside ∧ c = '(' then readItems .top [] cs else firstList (place.next c) cs

/-- The items without blanks around them. A list of blanks has none. -/
def trimmed (items : List (List Char)) : List String :=
  if items.map (Text.trimWith Text.isBlank) = [[]] then []
  else items.map fun item => String.ofList (Text.trimWith Text.isBlank item)

/-- The items of the first list in a text, and what follows the list. -/
def listIn (text : List Char) : Option (List String × List Char) :=
  (firstList .outside text).map fun (items, rest) => (trimmed items, rest)

/-- The parts of a text between commas outside of everything, if `item` was read of the first. -/
def actionsFrom : Spot → List Char → List Char → List (List Char)
  | _, item, [] => [item]
  | s, item, c :: cs =>
    if s = .top ∧ c = ',' then item :: actionsFrom .top [] cs else actionsFrom (s.next c) (item ++ [c]) cs

def actions (text : String) : List String := (actionsFrom .top [] text.toList).map String.ofList

/-- Whether a text has no comma outside of everything. -/
def Uncut (cs : List Char) : Prop := actionsFrom .top [] cs = [cs]

instance (cs : List Char) : Decidable (Uncut cs) := inferInstanceAs (Decidable (_ = _))

/-! ## Quiet texts -/

/-- Whether a text begins with a character that can end an item or change the depth. -/
def shapes : List Char → Bool
  | [] => false
  | c :: _ => [',', '(', ')', '<', '>'].contains c

/-- A text that is read without a change to the shape of a list. -/
def Quiet (cs : List Char) : Prop := scan shapes .outside cs = some .outside

instance (cs : List Char) : Decidable (Quiet cs) := inferInstanceAs (Decidable (_ = _))

variable {s s' : Spot} {place place' : Lexing} {as bs cs item : List Char}

theorem within_append : within s (as ++ bs) = (within s as).bind (within · bs) := by
  induction as generalizing s with
  | nil => rfl
  | cons c as ih =>
      simp only [List.cons_append, within]
      split
      · rfl
      · exact ih

theorem scan_shapes_append :
    scan shapes place (as ++ bs) = (scan shapes place as).bind (scan shapes · bs) := by
  induction as generalizing place with
  | nil => rfl
  | cons c as ih =>
      have hc : shapes (c :: (as ++ bs)) = shapes (c :: as) := rfl
      rw [List.cons_append, scan, scan, hc]
      split
      · rfl
      · exact ih

theorem Quiet.append (ha : Quiet as) (hb : Quiet bs) : Quiet (as ++ bs) := by
  rw [Quiet, scan_shapes_append, ha]
  exact hb

theorem Spot.eq_top {n : Int} (h : (⟨place, n⟩ : Spot) = .top) : place = .outside := congrArg Spot.place h

theorem bracket_of_not_shapes {c : Char} (h : shapes (c :: cs) = false) :
    bracket c = 0 ∧ c ≠ ',' ∧ closes c = false := by
  simp [shapes] at h
  simp [bracket, closes, h]

theorem within_of_scan (h : scan shapes place cs = some place') (n : Int) :
    within ⟨place, n⟩ cs = some ⟨place', n⟩ := by
  induction cs generalizing place with
  | nil =>
      cases h
      rfl
  | cons c cs ih =>
      simp only [scan] at h
      split at h
      · cases h
      · rename_i hc
        rw [not_and] at hc
        have hnext : Spot.next ⟨place, n⟩ c = ⟨place.next c, n⟩ := by
          simp only [Spot.next]
          split
          · rename_i hp
            rw [(bracket_of_not_shapes (Bool.eq_false_iff.mpr (hc hp))).1, Int.add_zero]
          · rfl
        have hstay : ¬((⟨place, n⟩ : Spot) = .top ∧ (c = ',' ∨ closes c = true)) := by
          rintro ⟨htop, hcut⟩
          obtain ⟨-, hcomma, hclose⟩ := bracket_of_not_shapes (Bool.eq_false_iff.mpr (hc (Spot.eq_top htop)))
          rcases hcut with hcut | hcut
          · exact hcomma hcut
          · rw [hclose] at hcut
            cases hcut
        rw [within, if_neg hstay, hnext]
        exact ih h

theorem Quiet.within (h : Quiet cs) (n : Int) : within ⟨.outside, n⟩ cs = some ⟨.outside, n⟩ := within_of_scan h n

theorem Quiet.contained (h : Quiet cs) : Contained cs := h.within 0

theorem firstList_of_scan (h : scan shapes place as = some .outside) :
    firstList place (as ++ '(' :: bs) = readItems .top [] bs := by
  induction as generalizing place with
  | nil =>
      cases h
      rfl
  | cons c as ih =>
      simp only [scan] at h
      split at h
      · cases h
      · rename_i hc
        have hopen : ¬(place = .outside ∧ c = '(') := by
          rintro ⟨hp, rfl⟩
          exact hc ⟨hp, rfl⟩
        rw [List.cons_append, firstList, if_neg hopen]
        exact ih h

theorem Contained.append (ha : Contained as) (hb : Contained bs) : Contained (as ++ bs) := by
  rw [Contained, within_append, ha]
  exact hb

/-! ## Blanks -/

def nonBlanks (cs : List Char) : Nat := cs.countP (!Text.isBlank ·)

theorem nonBlanks_append : nonBlanks (as ++ bs) = nonBlanks as + nonBlanks bs := List.countP_append

theorem nonBlanks_of_blank (h : ∀ c ∈ cs, Text.isBlank c = true) : nonBlanks cs = 0 := by
  rw [nonBlanks, List.countP_eq_zero]
  intro c hc
  simp [h c hc]

theorem nonBlanks_trim (cs : List Char) : nonBlanks (Text.trimWith Text.isBlank cs) = nonBlanks cs := by
  obtain ⟨left, right, hcs, hl, hr⟩ := Text.trimWith_between Text.isBlank cs
  have hn := congrArg nonBlanks hcs
  rw [nonBlanks_append, nonBlanks_append, nonBlanks_of_blank hl, nonBlanks_of_blank hr] at hn
  omega

theorem nonBlanks_cons {c : Char} (h : Text.isBlank c = false) : nonBlanks (c :: cs) = nonBlanks cs + 1 := by
  simp [nonBlanks, h]

theorem ne_of_isBlank {c : Char} (h : Text.isBlank c = true) :
    c ≠ '\x60' ∧ c ≠ '\x27' ∧ c ≠ ',' ∧ closes c = false ∧ bracket c = 0 := by
  have hne : ∀ d : Char, Text.isBlank d = false → c ≠ d := by
    rintro d hd rfl
    rw [h] at hd
    exact nomatch hd
  have h₁ := hne '(' (by decide)
  have h₂ := hne '<' (by decide)
  have h₃ := hne ')' (by decide)
  have h₄ := hne '>' (by decide)
  exact ⟨hne _ (by decide), hne _ (by decide), hne _ (by decide), by simp [closes, h₃, h₄],
    by simp [bracket, h₁, h₂, h₃, h₄]⟩

theorem next_blank_eq_top {c : Char} (hc : Text.isBlank c = true) : s.next c = .top ↔ s = .top := by
  obtain ⟨place, n⟩ := s
  obtain ⟨hname, hquote, -, -, hdepth⟩ := ne_of_isBlank hc
  cases place with
  | outside => simp [Spot.next, Spot.top, Lexing.next, hname, hquote, hdepth]
  | name => simp [Spot.next, Spot.top, Lexing.next, hname]
  | literal =>
      simp only [Spot.next, Spot.top, Lexing.next, if_neg hquote]
      split <;> simp
  | escaped => simp [Spot.next, Spot.top, Lexing.next]

theorem within_blank (h : ∀ c ∈ cs, Text.isBlank c = true) : within s cs = some .top ↔ s = .top := by
  induction cs generalizing s with
  | nil => simp [within]
  | cons c cs ih =>
      obtain ⟨hc, hcs⟩ := List.forall_mem_cons.mp h
      obtain ⟨-, -, hcomma, hclose, -⟩ := ne_of_isBlank hc
      rw [within, if_neg (by simp [hcomma, hclose]), ih hcs, next_blank_eq_top hc]

theorem contained_append_blank (h : ∀ c ∈ bs, Text.isBlank c = true) : Contained (as ++ bs) ↔ Contained as := by
  rw [Contained, Contained, within_append]
  cases within .top as with
  | none => simp
  | some s => simp [within_blank h]

/-! ## Reading a list -/

variable {items : List (List Char)} {rest rest' : List Char} {first : List Char}

theorem readItems_within (h : within s as = some s') :
    readItems s item (as ++ bs) = readItems s' (item ++ as) bs := by
  induction as generalizing s item with
  | nil =>
      cases h
      simp
  | cons c as ih =>
      simp only [within] at h
      split at h
      · exact nomatch h
      · rename_i hc
        rw [List.cons_append, readItems, if_neg (fun hs => hc ⟨hs.1, .inl hs.2⟩),
          if_neg (fun hs => hc ⟨hs.1, .inr hs.2⟩), ih h, List.append_assoc, List.singleton_append]

theorem readItems_first (h : readItems s item cs = some (first :: items, rest)) : item <+: first := by
  induction cs generalizing s item first items with
  | nil => exact nomatch h
  | cons c cs ih =>
      rw [readItems] at h
      split at h
      · obtain ⟨⟨_, _⟩, -, he⟩ := Option.map_eq_some_iff.mp h
        cases he
        exact List.prefix_rfl
      · split at h
        · cases h
          exact List.prefix_rfl
        · exact (List.prefix_append _ _).trans (ih h)

theorem readItems_stops (h : readItems s item (as ++ bs) = some (first :: items, rest))
    (hw : within s as = none) : ∃ before c after, as = before ++ c :: after ∧ Text.isBlank c = false ∧
      first = item ++ before := by
  induction as generalizing s item with
  | nil => exact nomatch hw
  | cons c as ih =>
      rw [within] at hw
      rw [List.cons_append, readItems] at h
      -- `within` stops where `readItems` ends the item, at a comma or at a closing bracket.
      by_cases hcomma : s = .top ∧ c = ','
      · rw [if_pos hcomma] at h
        obtain ⟨⟨_, _⟩, -, he⟩ := Option.map_eq_some_iff.mp h
        cases he
        exact ⟨[], c, as, rfl, hcomma.2 ▸ by decide, (List.append_nil _).symm⟩
      · rw [if_neg hcomma] at h
        by_cases hclose : s = .top ∧ closes c = true
        · rw [if_pos hclose] at h
          cases h
          refine ⟨[], c, as, rfl, ?_, (List.append_nil _).symm⟩
          cases hb : Text.isBlank c with
          | false => rfl
          | true => exact nomatch (ne_of_isBlank hb).2.2.2.1.symm.trans hclose.2
        · rw [if_neg hclose] at h
          rw [if_neg (fun hs => hs.2.elim (fun hc => hcomma ⟨hs.1, hc⟩) fun hc => hclose ⟨hs.1, hc⟩)] at hw
          obtain ⟨before, d, after, rfl, hd, hf⟩ := ih h hw
          exact ⟨c :: before, d, after, rfl, hd, by rw [hf]; simp⟩

/-- A text with as many characters as the first item that was read of it is an item. -/
theorem contained_of_readItems {c : Char} (h : readItems .top item (as ++ c :: bs) = some (first :: items, rest))
    (hc : Text.isBlank c = false) (hn : nonBlanks first = nonBlanks item + nonBlanks as) : Contained as := by
  -- An item that ended inside of `as` has too few characters, and one that went on over `c` too many. Blanks do
  -- not count, since the item is compared without those around it.
  cases hw : within .top as with
  | none =>
      obtain ⟨before, d, after, rfl, hd, rfl⟩ := readItems_stops h hw
      rw [nonBlanks_append, nonBlanks_append, nonBlanks_cons hd] at hn
      omega
  | some s =>
      by_cases hs : s = .top
      · rw [Contained, hw, hs]
      · rw [readItems_within hw, readItems, if_neg (fun ht => hs ht.1), if_neg (fun ht => hs ht.1)] at h
        obtain ⟨more, rfl⟩ := readItems_first h
        rw [nonBlanks_append, nonBlanks_append, nonBlanks_append, nonBlanks_cons hc] at hn
        omega

/-! ## Actions -/

def uncutFrom : Spot → List Char → Bool
  | _, [] => true
  | s, c :: cs => !decide (s = .top ∧ c = ',') && uncutFrom (s.next c) cs

theorem actionsFrom_ne_nil (s : Spot) (item cs : List Char) : actionsFrom s item cs ≠ [] := by
  induction cs generalizing s item with
  | nil => exact List.cons_ne_nil _ _
  | cons c cs ih =>
      rw [actionsFrom]
      split
      · exact List.cons_ne_nil _ _
      · exact ih _ _

theorem actionsFrom_eq_iff : actionsFrom s item cs = [item ++ cs] ↔ uncutFrom s cs = true := by
  induction cs generalizing s item with
  | nil => simp [actionsFrom, uncutFrom]
  | cons c cs ih =>
      rw [actionsFrom, uncutFrom]
      split
      · rename_i hc
        constructor
        · intro h
          exact absurd (List.cons.inj h).2 (actionsFrom_ne_nil _ _ _)
        · intro h
          simp [hc] at h
      · rename_i hc
        have hi : item ++ c :: cs = item ++ [c] ++ cs := by simp
        rw [hi, ih, decide_eq_false hc]
        simp

theorem uncut_iff : Uncut cs ↔ uncutFrom .top cs = true := actionsFrom_eq_iff

theorem uncutFrom_append : uncutFrom s (as ++ bs) = (uncutFrom s as && uncutFrom (as.foldl Spot.next s) bs) := by
  induction as generalizing s with
  | nil => rfl
  | cons c as ih => rw [List.cons_append, uncutFrom, uncutFrom, ih, List.foldl_cons, Bool.and_assoc]

theorem uncut_of_within (h : within s cs = some s') : uncutFrom s cs = true ∧ cs.foldl Spot.next s = s' := by
  induction cs generalizing s with
  | nil => exact ⟨rfl, Option.some.inj h⟩
  | cons c cs ih =>
      rw [within] at h
      split at h
      · exact nomatch h
      · rename_i hc
        obtain ⟨hu, hf⟩ := ih h
        refine ⟨?_, hf⟩
        rw [uncutFrom, hu, decide_eq_false fun hs => hc ⟨hs.1, .inl hs.2⟩]
        rfl

theorem exists_of_within_eq_none (h : within s cs = none) : ∃ before c after, cs = before ++ c :: after ∧
    before.foldl Spot.next s = .top ∧ (c = ',' ∨ closes c = true) := by
  induction cs generalizing s with
  | nil => exact nomatch h
  | cons c cs ih =>
      rw [within] at h
      split at h
      · rename_i hc
        exact ⟨[], c, cs, rfl, hc.1, hc.2⟩
      · obtain ⟨before, d, after, rfl, hb, hd⟩ := ih h
        exact ⟨c :: before, d, after, rfl, hb, hd⟩

theorem place_foldl : (cs.foldl Spot.next s).place = cs.foldl Lexing.next s.place := by
  induction cs generalizing s with
  | nil => rfl
  | cons c cs ih => exact ih

theorem place_of_scan {stops : List Char → Bool} (h : scan stops place cs = some place') :
    cs.foldl Lexing.next place = place' := by
  induction cs generalizing place with
  | nil => exact Option.some.inj h
  | cons c cs ih =>
      rw [scan] at h
      split at h
      · cases h
      · exact ih h

theorem foldl_of_scan {stops : List Char → Bool} (h : scan stops .outside cs = some .outside) :
    cs.foldl Spot.next .top = ⟨.outside, (cs.foldl Spot.next .top).depth⟩ := by
  have hp : (cs.foldl Spot.next .top).place = .outside := place_foldl.trans (place_of_scan h)
  rw [← hp]

theorem contained_between (ha : Quiet as) (hc : scan breaks .outside cs = some .outside) (hb : Quiet bs) :
    Contained (as ++ (cs ++ bs)) ↔ Contained cs := by
  rw [Contained, Contained, within_append, ha.contained, Option.bind_some, within_append]
  cases hw : within .top cs with
  | none => rw [Option.bind_none]
  | some s =>
      obtain ⟨-, rfl⟩ := uncut_of_within hw
      rw [Option.bind_some, foldl_of_scan hc, hb.within]

theorem uncut_between (ha : Quiet as) (hc : scan breaks .outside cs = some .outside) (hb : Quiet bs) :
    Uncut (as ++ (cs ++ bs)) ↔ Uncut cs := by
  obtain ⟨hua, hfa⟩ := uncut_of_within ha.contained
  rw [uncut_iff, uncut_iff, uncutFrom_append, hua, hfa, Bool.true_and, uncutFrom_append, foldl_of_scan hc,
    (uncut_of_within (hb.within _)).1, Bool.and_true]

/-! ## Joined items -/

section Joined

variable {separator : String} {gap trail : List Char} {parts : List String}

theorem toList_join_cons (s t : String) (more : List String) :
    (Text.join separator (s :: t :: more)).toList
      = s.toList ++ separator.toList ++ (Text.join separator (t :: more)).toList := by
  rw [Text.join, String.toList_append, String.toList_append]

theorem readItems_join (hs : separator.toList = ',' :: gap) (hgap : ∀ c ∈ gap, Text.isBlank c = true)
    (htrail : ∀ c ∈ trail, Text.isBlank c = true) (hi : ∀ c ∈ item, Text.isBlank c = true) (hne : parts ≠ [])
    (hc : ∀ part ∈ parts, Contained part.toList) :
    ∃ items, readItems .top item ((Text.join separator parts).toList ++ (trail ++ ')' :: rest)) = some (items, rest) ∧
      items.map (Text.trimWith Text.isBlank) = parts.map fun part => Text.trimWith Text.isBlank part.toList := by
  induction parts generalizing item with
  | nil => exact absurd rfl hne
  | cons p parts ih =>
      obtain ⟨hp, hmore⟩ := List.forall_mem_cons.mp hc
      cases parts with
      | nil =>
          refine ⟨[item ++ p.toList ++ trail], ?_, ?_⟩
          · rw [Text.join, readItems_within hp, readItems_within ((within_blank htrail).mpr rfl)]
            rfl
          · rw [List.map_singleton, Text.trimWith_append_right htrail, Text.trimWith_append_left hi]
            rfl
      | cons q more =>
          obtain ⟨items, hr, hm⟩ := ih hgap (List.cons_ne_nil q more) hmore
          refine ⟨(item ++ p.toList) :: items, ?_, ?_⟩
          · rw [toList_join_cons, List.append_assoc, List.append_assoc, readItems_within hp, hs, List.cons_append,
              readItems, if_pos ⟨rfl, rfl⟩, readItems_within ((within_blank hgap).mpr rfl), List.nil_append, hr]
            rfl
          · rw [List.map_cons, hm, Text.trimWith_append_left hi]
            rfl

theorem contained_of_join (hs : separator.toList = ',' :: gap) (hgap : ∀ c ∈ gap, Text.isBlank c = true)
    (htrail : ∀ c ∈ trail, Text.isBlank c = true) (hi : ∀ c ∈ item, Text.isBlank c = true)
    (hr : readItems .top item ((Text.join separator parts).toList ++ (trail ++ ')' :: rest)) = some (items, rest'))
    (hm : items.map (Text.trimWith Text.isBlank) = parts.map fun part => Text.trimWith Text.isBlank part.toList) :
    ∀ part ∈ parts, Contained part.toList := by
  induction parts generalizing item items with
  | nil => exact fun _ h => absurd h (List.not_mem_nil)
  | cons p parts ih =>
      cases items with
      | nil => exact nomatch hm
      | cons first items =>
          -- The first item read is the first part up to blanks, so that part ends where the item does; then the
          -- rest of the list was read of the other parts.
          rw [List.map_cons, List.map_cons, List.cons.injEq] at hm
          obtain ⟨hfirst, hm⟩ := hm
          have hn : nonBlanks first = nonBlanks p.toList := by
            rw [← nonBlanks_trim, hfirst, nonBlanks_trim]
          cases parts with
          | nil =>
              rw [Text.join, ← List.append_assoc] at hr
              have hp : Contained (p.toList ++ trail) := by
                refine contained_of_readItems hr (by decide) ?_
                rw [nonBlanks_append, nonBlanks_of_blank hi, nonBlanks_of_blank htrail, hn]
                omega
              exact List.forall_mem_singleton.mpr ((contained_append_blank htrail).mp hp)
          | cons q more =>
              rw [toList_join_cons, List.append_assoc, List.append_assoc, hs, List.cons_append] at hr
              have hp : Contained p.toList := by
                refine contained_of_readItems hr (by decide) ?_
                rw [nonBlanks_of_blank hi, hn, Nat.zero_add]
              rw [readItems_within hp, readItems, if_pos ⟨rfl, rfl⟩,
                readItems_within ((within_blank hgap).mpr rfl), List.nil_append] at hr
              obtain ⟨⟨items', _⟩, hr', he⟩ := Option.map_eq_some_iff.mp hr
              cases he
              exact List.forall_mem_cons.mpr ⟨hp, ih hgap hr' hm⟩

/-- A list in parentheses after quiet words, with blanks around its items. -/
def listed (head lead : List Char) (separator : String) (parts : List String) (trail rest : List Char) : List Char :=
  head ++ '(' :: (lead ++ ((Text.join separator parts).toList ++ (trail ++ ')' :: rest)))

variable {head lead : List Char}

theorem listIn_listed (hhead : Quiet head) (hlead : ∀ c ∈ lead, Text.isBlank c = true) :
    listIn (listed head lead separator parts trail rest) =
      (readItems .top lead ((Text.join separator parts).toList ++ (trail ++ ')' :: rest))).map
        fun (items, rest) => (trimmed items, rest) := by
  rw [listIn, listed, firstList_of_scan hhead, readItems_within ((within_blank hlead).mpr rfl), List.nil_append]

theorem listIn_of_contained (hhead : Quiet head) (hlead : ∀ c ∈ lead, Text.isBlank c = true)
    (hs : separator.toList = ',' :: gap) (hgap : ∀ c ∈ gap, Text.isBlank c = true)
    (htrail : ∀ c ∈ trail, Text.isBlank c = true) (hn : ∀ part ∈ parts, nonBlanks part.toList ≠ 0)
    (hc : ∀ part ∈ parts, Contained part.toList) :
    listIn (listed head lead separator parts trail rest) = some (parts.map Text.strip, rest) := by
  rw [listIn_listed hhead hlead]
  cases parts with
  | nil =>
      have hblank : Text.trimWith Text.isBlank (lead ++ trail) = [] := by
        rw [Text.trimWith_append_left hlead, Text.trimWith_of_all htrail]
      rw [Text.join, String.toList_empty, List.nil_append, readItems_within ((within_blank htrail).mpr rfl)]
      simp [readItems, Spot.top, closes, trimmed, hblank]
  | cons p parts =>
      obtain ⟨items, hr, hm⟩ := readItems_join hs hgap htrail hlead (List.cons_ne_nil p parts) hc
      have hne : items.map (Text.trimWith Text.isBlank) ≠ [[]] := by
        rw [hm, List.map_cons]
        intro he
        have hp : nonBlanks p.toList = 0 := by
          rw [← nonBlanks_trim, (List.cons.inj he).1]
          rfl
        exact hn p List.mem_cons_self hp
      have ht : items.map (fun item => String.ofList (Text.trimWith Text.isBlank item))
          = (p :: parts).map Text.strip := by
        have ho := congrArg (List.map String.ofList) hm
        rw [List.map_map, List.map_map] at ho
        exact ho
      rw [hr, Option.map_some]
      simp only [trimmed, if_neg hne, ht]

theorem contained_of_listIn (hhead : Quiet head) (hlead : ∀ c ∈ lead, Text.isBlank c = true)
    (hs : separator.toList = ',' :: gap) (hgap : ∀ c ∈ gap, Text.isBlank c = true)
    (htrail : ∀ c ∈ trail, Text.isBlank c = true)
    (hl : listIn (listed head lead separator parts trail rest) = some (parts.map Text.strip, rest')) :
    ∀ part ∈ parts, Contained part.toList := by
  rw [listIn_listed hhead hlead] at hl
  obtain ⟨⟨items, _⟩, hr, he⟩ := Option.map_eq_some_iff.mp hl
  obtain ⟨ht, -⟩ := Prod.mk.inj he
  rw [trimmed] at ht
  split at ht
  · rw [List.map_eq_nil_iff.mp ht.symm]
    exact fun _ h => absurd h List.not_mem_nil
  · refine contained_of_join hs hgap htrail hlead hr ?_
    have ho := congrArg (List.map String.toList) ht
    rw [List.map_map, List.map_map] at ho
    simpa [Function.comp_def, Text.strip] using ho

end Joined

end SinkKeeper.Sql
