import SinkKeeper.Json.Basic

/-!
# Equal documents

Whether two documents are the same can be decided: by their kinds, and then by what they hold.
-/

namespace SinkKeeper.Json

mutual

def decEq : (j k : Json) → Decidable (j = k)
  | .null, k => match k with
    | .null => isTrue rfl
    | .bool _ | .number _ | .string _ | .array _ | .object _ => isFalse (by simp)
  | .bool b, k => match k with
    | .bool c => decidable_of_iff (b = c) (by simp)
    | .null | .number _ | .string _ | .array _ | .object _ => isFalse (by simp)
  | .number m, k => match k with
    | .number n => decidable_of_iff (m = n) (by simp)
    | .null | .bool _ | .string _ | .array _ | .object _ => isFalse (by simp)
  | .string s, k => match k with
    | .string t => decidable_of_iff (s = t) (by simp)
    | .null | .bool _ | .number _ | .array _ | .object _ => isFalse (by simp)
  | .array items, k => match k with
    | .array others => @decidable_of_iff _ (items = others) (by simp) (decEqItems items others)
    | .null | .bool _ | .number _ | .string _ | .object _ => isFalse (by simp)
  | .object fields, k => match k with
    | .object others => @decidable_of_iff _ (fields = others) (by simp) (decEqFields fields others)
    | .null | .bool _ | .number _ | .string _ | .array _ => isFalse (by simp)

def decEqItems : (items others : List Json) → Decidable (items = others)
  | [], [] => isTrue rfl
  | [], _ :: _ | _ :: _, [] => isFalse (by simp)
  | j :: items, k :: others =>
    @decidable_of_iff _ (j = k ∧ items = others) (by simp) (@instDecidableAnd _ _ (decEq j k) (decEqItems items others))

def decEqFields : (fields others : List (String × Json)) → Decidable (fields = others)
  | [], [] => isTrue rfl
  | [], _ :: _ | _ :: _, [] => isFalse (by simp)
  | (name, j) :: fields, (other, k) :: others =>
    @decidable_of_iff _ (name = other ∧ j = k ∧ fields = others) (by simp [and_assoc])
      (@instDecidableAnd _ _ _ (@instDecidableAnd _ _ (decEq j k) (decEqFields fields others)))

end

instance : DecidableEq Json := decEq

end SinkKeeper.Json
