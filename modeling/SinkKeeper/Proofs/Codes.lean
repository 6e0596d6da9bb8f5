import Mathlib.Algebra.Order.Floor.Semifield
import Mathlib.Data.Rat.Floor
import SinkKeeper.Proofs.Numerals
import SinkKeeper.Proofs.Replies

/-!
# Codes of answers

A master tells by the code of its answer how a request went, and zero alone is success. A code that is a whole number,
or the plain text of one, is passed on as it is. Other codes should be refused, and there are some that are not: those
that count as a whole number all the same.
-/

namespace SinkKeeper

open SinkKeeper.Number

/-! ## Whole parts -/

/-- The whole part of a finite number is that of its size, with its sign. -/
theorem Number.Double.truncate?_finite (negative : Bool) (mantissa : Nat) (exponent : Int) :
    (Double.finite negative mantissa exponent).truncate? =
      some (if negative then -(⌊(mantissa : ℚ) * 2 ^ exponent⌋₊ : Int) else ⌊(mantissa : ℚ) * 2 ^ exponent⌋₊) := by
  have hpart : (magnitude mantissa exponent).1 / (magnitude mantissa exponent).2 =
      ⌊(mantissa : ℚ) * 2 ^ exponent⌋₊ := by
    unfold magnitude
    split
    next hup =>
      obtain ⟨k, rfl⟩ := Int.eq_ofNat_of_zero_le hup
      have hsize : (mantissa : ℚ) * 2 ^ (k : Int) = ((mantissa * 2 ^ k : Nat) : ℚ) := by
        push_cast
        rw [zpow_natCast]
      rw [hsize, Nat.floor_natCast]
      exact Nat.div_one _
    next hdown =>
      obtain ⟨k, rfl⟩ : ∃ k : Nat, exponent = -k := ⟨(-exponent).toNat, by omega⟩
      have hsize : (mantissa : ℚ) * 2 ^ (-(k : Int)) = (mantissa : ℚ) / ((2 ^ k : Nat) : ℚ) := by
        push_cast
        rw [zpow_neg, zpow_natCast, div_eq_mul_inv]
      rw [hsize, Nat.floor_div_eq_div, neg_neg]
      rfl
  simp only [truncate?, hpart]

/-! ## What codes count as -/

namespace Json

/-- The value counts as a whole number: itself, what its text spells, one or zero for a truth value, or its whole
part. -/
inductive Counts : Json → Int → Prop
  | whole {n : Int} : Counts (.number (.whole n)) n
  | text {s : String} {n : Int} (h : Number.Spells s n) : Counts (.string s) n
  | bool {b : Bool} : Counts (.bool b) (if b then 1 else 0)
  | real {negative : Bool} {mantissa : Nat} {exponent : Int} :
      Counts (.number (.real (.finite negative mantissa exponent)))
        (if negative then -(⌊(mantissa : ℚ) * 2 ^ exponent⌋₊ : Int) else ⌊(mantissa : ℚ) * 2 ^ exponent⌋₊)

theorem wholeOfText_eq_ok {s : String} {n : Int} : wholeOfText s = .ok n ↔ Number.Spells s n := by
  rw [← readInteger_iff, wholeOfText]
  split <;> simp [*]

theorem wholeOfDouble_of_truncate? {x : Double} {n : Int} (h : x.truncate? = some n) : wholeOfDouble x = .ok n := by
  cases x with
  | nan | infinite negative => cases h
  | finite negative mantissa exponent => exact congrArg (fun part : Option Int => Except.ok (part.getD 0)) h

theorem wholeOfDouble_finite (negative : Bool) (mantissa : Nat) (exponent : Int) :
    wholeOfDouble (.finite negative mantissa exponent) =
      .ok (if negative then -(⌊(mantissa : ℚ) * 2 ^ exponent⌋₊ : Int) else ⌊(mantissa : ℚ) * 2 ^ exponent⌋₊) :=
  wholeOfDouble_of_truncate? (Double.truncate?_finite negative mantissa exponent)

theorem toWhole_eq_ok {j : Json} {n : Int} : j.toWhole = .ok n ↔ j.Counts n := by
  constructor
  · intro h
    cases j with
    | null | array items | object fields => cases h
    | bool b =>
        cases h
        exact .bool
    | string s => exact .text (wholeOfText_eq_ok.mp h)
    | number number =>
        cases number with
        | whole n =>
            cases h
            exact .whole
        | real x =>
            cases x with
            | nan | infinite negative => cases h
            | finite negative mantissa exponent =>
                cases (wholeOfDouble_finite negative mantissa exponent).symm.trans h
                exact .real
  · intro h
    cases h with
    | whole | bool => rfl
    | text h => exact wholeOfText_eq_ok.mpr h
    | real => exact wholeOfDouble_finite _ _ _

theorem Counts.unique {j : Json} {n n' : Int} (h : j.Counts n) (h' : j.Counts n') : n = n' :=
  Except.ok.inj ((toWhole_eq_ok.mpr h).symm.trans (toWhole_eq_ok.mpr h'))

end Json

namespace Topic

variable {m : Masters} {fields answer : Json.Fields} {address : String} {replies : List Reply} {code : Json}
  {r : Except Failure Verdict}

/-! ## Verdicts of answers -/

/-- The verdict of an answer whose code counts as the number. -/
def verdictOn (answer : Json.Fields) (n : Int) : Verdict :=
  ⟨n, ((Json.fieldOrNull answer "errMsg").orElse (.string "")).text, n = 0, Json.fieldOrNull answer "data"⟩

def unexpected : Verdict := .refused "request master failed: unexpected master answer"

theorem verdict_of_shows {reply : Reply} (h : reply.Shows answer) : reply.verdict = judged answer := by
  rw [Reply.verdict, heard_answer_eq_ok.mpr h]
  rfl

/-- What is made of an answer by its code. -/
inductive Judged (answer : Json.Fields) : Except Failure Verdict → Prop
  | missing (h : answer.lookup "errCode" = none) : Judged answer (.ok (verdictOn answer (-1)))
  | counted {code : Json} {n : Int} (h : answer.lookup "errCode" = some code) (hcounts : code.Counts n) :
      Judged answer (.ok (verdictOn answer n))
  | uncounted {code : Json} (h : answer.lookup "errCode" = some code) (hnone : ∀ n, ¬code.Counts n)
      (hends : ∀ negative, code ≠ .number (.real (.infinite negative))) : Judged answer (.ok unexpected)
  | endless {negative : Bool} (h : answer.lookup "errCode" = some (.number (.real (.infinite negative)))) :
      Judged answer (.error (.shape .infiniteNumber))

theorem judged_of_code {n : Int} (h : Verdict.codeOf answer = .ok n) : judged answer = .ok (verdictOn answer n) := by
  rw [judged, Verdict.ofFields, h]
  rfl

theorem judged_of_value {e : ShapeError} (h : Verdict.codeOf answer = .error e) (hvalue : e.family = .value) :
    judged answer = .ok unexpected := by
  have hfields : Verdict.ofFields answer = .error e := Except.bind_eq_error.mpr (.inl h)
  rw [judged, hfields]
  exact if_pos hvalue

theorem codeOf_iff_counts {n : Int} (hlookup : answer.lookup "errCode" = some code) :
    Verdict.codeOf answer = .ok n ↔ code.Counts n := by
  rw [codeOf_eq_ok, hlookup, Option.getD_some, Json.toWhole_eq_ok]

theorem codeOf_of_missing (h : answer.lookup "errCode" = none) : Verdict.codeOf answer = .ok (-1) :=
  codeOf_eq_ok.mpr (by rw [h]; rfl)

theorem judged_judged (answer : Json.Fields) : Judged answer (judged answer) := by
  cases hlookup : answer.lookup "errCode" with
  | none =>
      rw [judged_of_code (codeOf_of_missing hlookup)]
      exact .missing hlookup
  | some code =>
      cases hcode : Verdict.codeOf answer with
      | ok n =>
          rw [judged_of_code hcode]
          exact .counted hlookup ((codeOf_iff_counts hlookup).mp hcode)
      | error e =>
          rcases codeOf_eq_error hcode with hvalue | ⟨rfl, negative, hendless⟩
          · rw [judged_of_value hcode hvalue]
            refine .uncounted hlookup (fun n hn => ?_) fun negative hends => ?_
            · cases hcode.symm.trans ((codeOf_iff_counts hlookup).mpr hn)
            · rw [hends] at hlookup
              cases (judged_of_value hcode hvalue).symm.trans (judged_eq_error.mpr ⟨rfl, negative, hlookup⟩)
          · rw [judged_eq_error.mpr ⟨rfl, negative, hendless⟩]
            exact .endless hendless

theorem Judged.of_lookup (h : Judged answer r) (hlookup : answer.lookup "errCode" = some code) :
    (∃ n, code.Counts n ∧ r = .ok (verdictOn answer n)) ∨ (∀ n, ¬code.Counts n) ∧ r = .ok unexpected ∨
      ∃ negative, code = .number (.real (.infinite negative)) ∧ r = .error (.shape .infiniteNumber) := by
  cases h with
  | missing hnone => cases hnone.symm.trans hlookup
  | counted hother hcounts =>
      cases hother.symm.trans hlookup
      exact .inl ⟨_, hcounts, rfl⟩
  | uncounted hother hnone =>
      cases hother.symm.trans hlookup
      exact .inr (.inl ⟨hnone, rfl⟩)
  | endless hother =>
      cases hother.symm.trans hlookup
      exact .inr (.inr ⟨_, rfl, rfl⟩)

/-- The work ends with success. -/
def Accepts (r : Except Failure Verdict) : Prop := ∃ verdict, r = .ok verdict ∧ verdict.accepted = true

theorem accepts_verdictOn {n : Int} : Accepts (.ok (verdictOn answer n)) ↔ n = 0 := by
  constructor
  · rintro ⟨verdict, hok, haccepted⟩
    cases hok
    exact of_decide_eq_true haccepted
  · exact fun h => ⟨_, rfl, decide_eq_true h⟩

theorem not_accepts_unexpected : ¬Accepts (.ok unexpected) := by
  rintro ⟨verdict, hok, haccepted⟩
  cases hok
  cases haccepted

/-- An answer is accepted just if it has a code that counts as zero. -/
theorem Judged.accepts_iff (h : Judged answer r) :
    Accepts r ↔ ∃ code, answer.lookup "errCode" = some code ∧ code.Counts 0 := by
  constructor
  · intro haccepts
    cases h with
    | missing => exact absurd (accepts_verdictOn.mp haccepts) (by decide)
    | counted hlookup hcounts =>
        obtain rfl := accepts_verdictOn.mp haccepts
        exact ⟨_, hlookup, hcounts⟩
    | uncounted => exact absurd haccepts not_accepts_unexpected
    | endless =>
        obtain ⟨verdict, hok, -⟩ := haccepts
        cases hok
  · rintro ⟨code, hlookup, hzero⟩
    rcases h.of_lookup hlookup with ⟨n, hcounts, rfl⟩ | ⟨hnone, -⟩ | ⟨negative, rfl, -⟩
    · exact accepts_verdictOn.mpr (hcounts.unique hzero)
    · exact absurd hzero (hnone 0)
    · cases hzero

/-! ## Codes that are whole numbers -/

/-- The value is a whole number, or the plain text of one. -/
inductive Denotes : Json → Int → Prop
  | whole {n : Int} : Denotes (.number (.whole n)) n
  | text {s : String} {n : Int} (h : Plain s n) : Denotes (.string s) n

/-- The verdict keeps the code if it is a whole number, and refuses it otherwise. -/
structure Keeps (answer : Json.Fields) (code : Json) (r : Except Failure Verdict) : Prop where
  whole : ∀ n, Denotes code n → r = .ok (verdictOn answer n)
  other : (∀ n, ¬Denotes code n) → r = .ok unexpected
  accepts : Accepts r ↔ Denotes code 0

/-- The code is read by the letter of its shape and not of what it is: a truth value, a number with places or without
end, a text that spells a number but not plainly, or a plain text of too many digits. -/
inductive Misread : Json → Prop
  | bool (b : Bool) : Misread (.bool b)
  | finite (negative : Bool) (mantissa : Nat) (exponent : Int) :
      Misread (.number (.real (.finite negative mantissa exponent)))
  | endless (negative : Bool) : Misread (.number (.real (.infinite negative)))
  | loose {s : String} {n : Int} (h : Number.Spells s n) (hloose : ∀ n, ¬Plain s n) : Misread (.string s)
  | overlong {s : String} {n : Int} (h : Plain s n) (hlong : 4300 < s.toList.countP Text.isAsciiDigit) :
      Misread (.string s)

/-- A code that is not misread counts as a number just if it is one. -/
theorem counts_iff_denotes (h : ¬Misread code) {n : Int} : code.Counts n ↔ Denotes code n := by
  constructor
  · intro hcounts
    cases hcounts with
    | whole => exact .whole
    | bool => exact absurd (.bool _) h
    | real => exact absurd (.finite _ _ _) h
    | @text s _ hspells =>
        by_cases hplain : ∃ n, Plain s n
        · obtain ⟨n', hn'⟩ := hplain
          have hshort := Nat.le_of_not_lt fun hlong => h (.overlong hn' hlong)
          rw [hspells.unique (hn'.spells hshort)]
          exact .text hn'
        · exact absurd (.loose hspells (not_exists.mp hplain)) h
  · intro hdenotes
    cases hdenotes with
    | whole => exact .whole
    | text hplain => exact .text (hplain.spells (Nat.le_of_not_lt fun hlong => h (.overlong hplain hlong)))

/-- Codes that are not misread are kept. -/
theorem Judged.keeps (h : Judged answer r) (hlookup : answer.lookup "errCode" = some code) (hread : ¬Misread code) :
    Keeps answer code r := by
  have hcounts {n : Int} : code.Counts n ↔ Denotes code n := counts_iff_denotes hread
  have haccepts : Accepts r ↔ Denotes code 0 := by
    rw [h.accepts_iff, ← hcounts, hlookup]
    simp
  rcases h.of_lookup hlookup with ⟨n, hn, rfl⟩ | ⟨hnone, rfl⟩ | ⟨negative, rfl, -⟩
  · refine ⟨fun n' hn' => ?_, fun hnone => absurd (hcounts.mp hn) (hnone n), haccepts⟩
    rw [hn.unique (hcounts.mpr hn')]
  · exact ⟨fun n hn => absurd (hcounts.mpr hn) (hnone n), fun _ => rfl, haccepts⟩
  · exact absurd (.endless negative) hread

/-! ## Requests that are passed on -/

/-- A request that is passed on to a master gives the verdict of its answer, which is that of the code unless the code
is misread, and is success just if the code counts as zero. -/
theorem relay_keeps_code (haddress : m.addressOf (Json.fieldOrNull fields "clusterId") = .ok address)
    (hreply : (nextReply replies).Shows answer) :
    ∃ r, Exchange.Gives (m.relay fields) replies [m.requestTo address fields] r ∧ Judged answer r ∧
      (Accepts r ↔ ∃ code, answer.lookup "errCode" = some code ∧ code.Counts 0) ∧
      ∀ code, answer.lookup "errCode" = some code → ¬Misread code → Keeps answer code r := by
  have hjudged := judged_judged answer
  rw [← verdict_of_shows hreply] at hjudged
  exact ⟨_, Masters.relay_gives haddress (canCarry_plain _), hjudged, hjudged.accepts_iff, fun _ => hjudged.keeps⟩

def oneCluster : Json.Fields := [("clusterId", .int 1)]

/-- An answer that tells its code in a text. -/
def tellingText : String :=
  (Json.object [("errCode", .string "-12"), ("errMsg", .string "no right")]).render .spaced

/-- The code of an answer that tells it in a text. -/
def codeText? (answer : Json.Fields) : Option String :=
  match answer.lookup "errCode" with
  | some (.string s) => some s
  | _ => none

theorem lookup_of_codeText? {s : String} (h : codeText? answer = some s) :
    answer.lookup "errCode" = some (.string s) := by
  unfold codeText? at h
  split at h
  next hlookup =>
    cases h
    exact hlookup
  next => cases h

theorem relay_keeps_code_twelve :
    oneMaster.addressOf (Json.fieldOrNull oneCluster "clusterId") = .ok "10.0.0.7:8080" ∧
      ∃ answer, (nextReply [.page tellingText 200]).Shows answer ∧
        Exchange.Gives (oneMaster.relay oneCluster) [.page tellingText 200]
          [oneMaster.requestTo "10.0.0.7:8080" oneCluster] (.ok (verdictOn answer (-12))) := by
  have haddress : oneMaster.addressOf (Json.fieldOrNull oneCluster "clusterId") = .ok "10.0.0.7:8080" := rfl
  have hcheck : (objectIn? (some tellingText)).any (fun answer => codeText? answer == some "-12") = true := by
    decide +kernel
  obtain ⟨answer, hobject, hcode⟩ := (Option.any_eq_true _ _).mp hcheck
  have hparse := parse_of_objectIn? hobject
  rw [Option.getD_some] at hparse
  have hshows : (nextReply [.page tellingText 200]).Shows answer := ⟨tellingText, 200, rfl, hparse⟩
  have hwritten : writeInt (-12) = "-12" := by decide +kernel
  have hplain : Plain "-12" (-12) := hwritten ▸ plain_writeInt (-12)
  have hread : ¬Misread (.string "-12") := by
    intro hmisread
    cases hmisread with
    | loose _ hloose => exact hloose _ hplain
    | overlong _ hlong => exact absurd hlong (by decide +kernel)
  obtain ⟨r, hgives, -, -, hkeeps⟩ := relay_keeps_code haddress hshows
  rw [(hkeeps _ (lookup_of_codeText? (beq_iff_eq.mp hcode)) hread).whole _ (.text hplain)] at hgives
  exact ⟨haddress, answer, hshows, hgives⟩

/-- An answer whose code has places. -/
def halfText : String := "\x7b\x22errCode\x22: 0.5, \x22errMsg\x22: \x22no right\x22\x7d"

/-- The code of an answer that is a number with places. -/
def codeReal? (answer : Json.Fields) : Option Double :=
  match answer.lookup "errCode" with
  | some (.number (.real x)) => some x
  | _ => none

theorem lookup_of_codeReal? {x : Double} (h : codeReal? answer = some x) :
    answer.lookup "errCode" = some (.number (.real x)) := by
  unfold codeReal? at h
  split at h
  next hlookup =>
    cases h
    exact hlookup
  next => cases h

/-- A code between zero and one is no whole number, and is taken for success. -/
theorem relay_accepts_half :
    ∃ answer code r, (nextReply [.page halfText 200]).Shows answer ∧ answer.lookup "errCode" = some code ∧
      (∀ n, ¬Denotes code n) ∧
      Exchange.Gives (oneMaster.relay oneCluster) [.page halfText 200]
        [oneMaster.requestTo "10.0.0.7:8080" oneCluster] r ∧ Accepts r := by
  have haddress : oneMaster.addressOf (Json.fieldOrNull oneCluster "clusterId") = .ok "10.0.0.7:8080" := rfl
  have hcheck : (objectIn? (some halfText)).any (fun answer =>
      (codeReal? answer).any fun x => x.truncate? == some 0) = true := by decide +kernel
  obtain ⟨answer, hobject, hcode⟩ := (Option.any_eq_true _ _).mp hcheck
  obtain ⟨x, hreal, hzero⟩ := (Option.any_eq_true _ _).mp hcode
  have hlookup := lookup_of_codeReal? hreal
  have hparse := parse_of_objectIn? hobject
  rw [Option.getD_some] at hparse
  have hshows : (nextReply [.page halfText 200]).Shows answer := ⟨halfText, 200, rfl, hparse⟩
  have hwhole : (Json.number (.real x)).toWhole = .ok 0 := Json.wholeOfDouble_of_truncate? (beq_iff_eq.mp hzero)
  have hplaces : ∀ n, ¬Denotes (.number (.real x)) n := by
    intro n hn
    cases hn
  have hgives : Exchange.Gives (oneMaster.relay oneCluster) [.page halfText 200] _ _ :=
    Masters.relay_gives haddress (canCarry_plain _)
  rw [verdict_of_shows hshows, judged_of_code (codeOf_eq_ok.mpr (by rw [hlookup]; exact hwhole))] at hgives
  exact ⟨answer, _, _, hshows, hlookup, hplaces, hgives, accepts_verdictOn.mpr rfl⟩

end Topic

end SinkKeeper
