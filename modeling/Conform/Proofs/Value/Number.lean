import Conform.Value.Basic

/-!
# Order of numbers

`Value.isBelow_int`: integers among the values are ordered as integers. A null is neither below nor
above anything, so an absent bound never fails. Between two numbers in order there is room for any
third: it is above the one or below the other (`Value.isBelow_or_isBelow`).
-/

namespace Conform

theorem Dyadic.ofInt_lt_ofInt {a b : Int} : Dyadic.ofInt a < Dyadic.ofInt b ↔ a < b := by
  have ha : (Dyadic.ofInt a).toRat = a := Dyadic.toRat_intCast a
  have hb : (Dyadic.ofInt b).toRat = b := Dyadic.toRat_intCast b
  rw [← Dyadic.toRat_lt_toRat_iff, ha, hb, Rat.intCast_lt_intCast]

theorem Extended.lt_or_lt {a b : Extended} (h : a.lt b = true) (c : Extended) :
    a.lt c = true ∨ c.lt b = true := by
  cases a with
  | minusInfinity =>
    cases c with
    | minusInfinity => exact .inr h
    | finite | plusInfinity => exact .inl rfl
  | plusInfinity => cases h
  | finite x =>
    cases b with
    | minusInfinity => cases h
    | plusInfinity =>
      cases c with
      | minusInfinity | finite => exact .inr rfl
      | plusInfinity => exact .inl rfl
    | finite y =>
      cases c with
      | minusInfinity => exact .inr rfl
      | plusInfinity => exact .inl rfl
      | finite z =>
        simp only [lt, decide_eq_true_eq] at h ⊢
        by_cases hxz : x < z
        · exact .inl hxz
        · have hzx : z ≤ x := Dyadic.not_le.1 hxz
          exact .inr (Dyadic.not_lt.1 fun hyz => Dyadic.not_lt.2 h (Dyadic.le_trans hyz hzx))

namespace Value

theorem isNull_iff {v : Value} : v.isNull = true ↔ v = .null := by
  cases v <;> simp [isNull]

theorem isBelow_int (a b : Int) : (Value.int a).isBelow (.int b) = decide (a < b) := by
  simp [isBelow, extended?, Extended.ofInt, Extended.lt, Dyadic.ofInt_lt_ofInt]

theorem not_isBelow_natCast (a b : Nat) :
    (!(Value.int a).isBelow (.int b)) = decide (b ≤ a) := by
  rw [isBelow_int, ← decide_not, decide_eq_decide]
  omega

theorem isBelow_or_isBelow {v w u : Value} {x : Extended} (h : v.isBelow w = true)
    (hu : u.extended? = some x) : v.isBelow u = true ∨ u.isBelow w = true := by
  unfold isBelow at h ⊢
  rw [hu]
  cases hv : v.extended? with
  | none => simp [hv] at h
  | some a =>
    cases hw : w.extended? with
    | none => simp [hv, hw] at h
    | some b =>
      rw [hv, hw] at h
      exact Extended.lt_or_lt h x

@[simp] theorem isBelow_null (v : Value) : v.isBelow .null = false := by
  unfold isBelow
  cases v.extended? <;> rfl

@[simp] theorem null_isBelow (v : Value) : Value.null.isBelow v = false := rfl

end Value

end Conform
