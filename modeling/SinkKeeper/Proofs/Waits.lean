import SinkKeeper.Environment.Limits
import SinkKeeper.Proofs.Decimals

/-!
# Waits

How long connecting, a statement and a request may take. A limit is always greater than zero, and it is finite just if
the variable that it is read from does not spell infinity.
-/

namespace SinkKeeper

open Number (Double Endless readDouble? readDouble?_eq_infinite)

/-! ## Numbers that bound a wait -/

namespace Number.Double

/-- The value of a finite number. -/
def value? : Double → Option ℚ
  | .finite negative mantissa exponent =>
    some (if negative then -((mantissa : ℚ) * 2 ^ exponent) else (mantissa : ℚ) * 2 ^ exponent)
  | .infinite _ | .nan => none

/-- A finite number greater than zero. -/
def Bounds (x : Double) : Prop := ∃ q ∈ x.value?, 0 < q

theorem bounds_iff {x : Double} : x.Bounds ↔ x.isPositive = true ∧ x ≠ .infinite false := by
  cases x with
  | nan => simp [Bounds, value?, isPositive]
  | infinite negative => cases negative <;> simp [Bounds, value?, isPositive]
  | finite negative mantissa exponent =>
      have hunit : (0 : ℚ) < 2 ^ exponent := two_zpow_pos exponent
      have hsize : (0 : ℚ) ≤ mantissa * 2 ^ exponent := mul_nonneg (Nat.cast_nonneg mantissa) hunit.le
      cases negative with
      | true => simp [Bounds, value?, isPositive, hsize]
      | false => simp [Bounds, value?, isPositive, hunit, Nat.pos_iff_ne_zero]

end Number.Double

/-! ## Limits -/

/-- What may take no longer than its limit. -/
inductive Wait
  | connecting
  | statement
  | request
deriving DecidableEq, Repr

namespace Wait

/-- The variable that holds the limit. -/
def variableName : Wait → String
  | .connecting => "SINK_CONNECT_TIMEOUT"
  | .statement => "SINK_STATEMENT_TIMEOUT"
  | .request => "MQ_MASTER_TIMEOUT"

def preset : Wait → Double
  | .connecting => defaultConnectLimit
  | .statement => defaultStatementLimit
  | .request => defaultMasterLimit

def limit (env : Environment) : Wait → ReadLimit
  | .connecting => env.connectLimit
  | .statement => env.statementLimit
  | .request => env.masterLimit

/-- The number that the text spells if it bounds a wait, and else the preset. -/
inductive Follows (w : Wait) (text : String) : Double → Prop
  | told {x : Double} (hread : readDouble? text = some x) (hbounds : x.Bounds) : Follows w text x
  | preset (hnone : ∀ x, readDouble? text = some x → ¬x.Bounds) : Follows w text w.preset

variable {w : Wait} {text : String} {env : Environment}

theorem preset_bounds (w : Wait) : w.preset.Bounds := by
  rw [Double.bounds_iff]
  cases w <;> decide +kernel

theorem Follows.bounds {seconds : Double} (h : w.Follows text seconds) : seconds.Bounds := by
  cases h with
  | told _ hbounds => exact hbounds
  | preset _ => exact w.preset_bounds

theorem follows_positive (w : Wait) (h : readDouble? text ≠ some (.infinite false)) :
    w.Follows text (((readDouble? text).filter Double.isPositive).getD w.preset) := by
  cases hread : readDouble? text with
  | none => exact .preset fun x hx => nomatch hread.symm.trans hx
  | some x =>
      cases hpositive : x.isPositive with
      | true =>
          have hx : x ≠ .infinite false := fun hx => h (hx ▸ hread)
          rw [Option.filter_some, if_pos hpositive]
          exact .told hread (Double.bounds_iff.mpr ⟨hpositive, hx⟩)
      | false =>
          rw [Option.filter_some, hpositive]
          refine .preset fun y hy hbounds => ?_
          cases hread.symm.trans hy
          exact Bool.false_ne_true (hpositive.symm.trans (Double.bounds_iff.mp hbounds).1)

theorem limit_eq (env : Environment) (w : Wait) :
    ∃ complaint, w.limit env = env.limit w.variableName w.preset complaint := by
  cases w with
  | connecting =>
      rw [limit, Environment.connectLimit, Environment.sinkLimit]
      exact ⟨_, rfl⟩
  | statement =>
      rw [limit, Environment.statementLimit, Environment.sinkLimit]
      exact ⟨_, rfl⟩
  | request =>
      rw [limit, Environment.masterLimit]
      exact ⟨_, rfl⟩

/-- Whatever is greater than zero counts, infinity too. -/
theorem limit_seconds (env : Environment) (w : Wait) :
    (w.limit env).seconds = ((readDouble? (env.stripped w.variableName)).filter Double.isPositive).getD w.preset := by
  obtain ⟨complaint, hlimit⟩ := limit_eq env w
  rw [hlimit]
  unfold Environment.limit
  dsimp only
  split
  next hempty =>
    have hnone : readDouble? "" = none := by decide
    rw [hempty, hnone]
    rfl
  next =>
    split
    next hnone =>
      rw [hnone]
      rfl
    next x hsome =>
      rw [hsome, Option.filter_some, positiveOr]
      split <;> rfl

/-- A limit is what its text spells, if that is a finite number greater than zero, and else the preset, unless the
text spells infinity. Then there is no limit. -/
theorem limit_bounds_iff (env : Environment) (w : Wait) :
    ((w.limit env).seconds.Bounds ↔ ¬Endless (env.stripped w.variableName)) ∧
      (w.Follows (env.stripped w.variableName) (w.limit env).seconds ↔ ¬Endless (env.stripped w.variableName)) ∧
      (Endless (env.stripped w.variableName) → (w.limit env).seconds = .infinite false) := by
  have hendless : Endless (env.stripped w.variableName) → (w.limit env).seconds = .infinite false := by
    intro hendless
    rw [limit_seconds, readDouble?_eq_infinite.mpr hendless]
    rfl
  have hbounded : ¬Endless (env.stripped w.variableName) →
      w.Follows (env.stripped w.variableName) (w.limit env).seconds := by
    intro hfinite
    rw [limit_seconds]
    exact w.follows_positive (mt readDouble?_eq_infinite.mp hfinite)
  have hunbounded : ¬(Double.infinite false).Bounds := fun h => (Double.bounds_iff.mp h).2 rfl
  refine ⟨⟨fun hbounds hspells => ?_, fun hfinite => (hbounded hfinite).bounds⟩,
    ⟨fun hrule hspells => ?_, hbounded⟩, hendless⟩
  · rw [hendless hspells] at hbounds
    exact hunbounded hbounds
  · rw [hendless hspells] at hrule
    exact hunbounded hrule.bounds

/-- The name of infinity and a decimal beyond the format leave nothing bounded. -/
theorem limit_endless :
    (Wait.connecting.limit (.ofList [("SINK_CONNECT_TIMEOUT", "inf")])).seconds = .infinite false ∧
      (Wait.statement.limit (.ofList [("SINK_STATEMENT_TIMEOUT", " +Infinity ")])).seconds = .infinite false ∧
      (Wait.request.limit (.ofList [("MQ_MASTER_TIMEOUT", "1e400")])).seconds = .infinite false ∧
      ¬(Double.infinite false).Bounds :=
  ⟨by decide +kernel, by decide +kernel, by decide +kernel, fun h => (Double.bounds_iff.mp h).2 rfl⟩

end Wait

end SinkKeeper
