import Conform.Value.Writable
import Mathlib.Algebra.Group.Int.Defs
import Mathlib.Algebra.Group.Nat.Defs

/-!
# Values that can be written

A value has a text if all that it holds has one (`haveText_iff`, `entriesHaveText_iff`). Of the
values that are no integers only collections can lack one.
-/

namespace Conform

theorem isWritable_iff {n : Int} :
    isWritable n = true ↔ n.natAbs < 10 ^ Numeral.digitLimit := by
  rw [isWritable, decide_eq_true_iff, Nat.length_toDigits_le_iff (by decide) (by decide)]

/-- An integer of one digit more than are written. -/
@[irreducible] def longInteger : Int := 10 ^ Numeral.digitLimit

theorem longInteger_pos : 0 < longInteger := by
  rw [longInteger]
  exact Int.pow_pos (by decide)

theorem not_isWritable_longInteger : isWritable longInteger = false := by
  have hten : Int.natAbs 10 = 10 := rfl
  rw [Bool.eq_false_iff, Ne, isWritable_iff, longInteger, Int.natAbs_pow, hten]
  exact Nat.lt_irrefl _

namespace Value

theorem longInteger_hasText : (int longInteger).hasText = false := not_isWritable_longInteger

theorem neg_longInteger_hasText : (int (-longInteger)).hasText = false := by
  rw [hasText, isWritable, Int.natAbs_neg]
  exact not_isWritable_longInteger

theorem haveText_iff {items : List Value} :
    haveText items = true ↔ ∀ v ∈ items, v.hasText = true := by
  induction items with
  | nil => exact iff_of_true rfl (List.forall_mem_nil _)
  | cons v rest ih => rw [haveText, Bool.and_eq_true, ih, List.forall_mem_cons]

theorem entriesHaveText_iff {entries : List (Value × Value)} : entriesHaveText entries = true ↔
    ∀ entry ∈ entries, entry.1.hasText = true ∧ entry.2.hasText = true := by
  induction entries with
  | nil => exact iff_of_true rfl (List.forall_mem_nil _)
  | cons entry rest ih =>
    rw [entriesHaveText, Bool.and_eq_true, Bool.and_eq_true, ih, List.forall_mem_cons]

theorem hasText_of_mem_list {v : Value} {items : List Value} (h : (list items).hasText = true)
    (hv : v ∈ items) : v.hasText = true := haveText_iff.1 h v hv

theorem hasText_of_mem_map {entry : Value × Value} {entries : List (Value × Value)}
    (h : (map entries).hasText = true) (he : entry ∈ entries) : entry.2.hasText = true :=
  (entriesHaveText_iff.1 h entry he).2

theorem hasText_of_items? {v : Value} {items : List Value} (h : v.items? = some items) :
    v.hasText = haveText items := by
  cases v with
  | list | tuple =>
    obtain rfl := Option.some.inj h
    rfl
  | _ => cases h

@[simp] theorem requireText_eq_ok {v : Value} {u : Unit} :
    v.requireText = .ok u ↔ v.hasText = true := by
  unfold requireText
  split <;> simp_all

theorem requireText_eq_error {v : Value} {fault : Fault} :
    v.requireText = .error fault ↔ v.hasText = false ∧ .badValue = fault := by
  unfold requireText
  split <;> simp_all

end Value

end Conform
