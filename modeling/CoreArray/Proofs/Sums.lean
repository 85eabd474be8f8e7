import Mathlib.Algebra.Order.BigOperators.Group.List
import Mathlib.Algebra.Order.Ring.Nat
set_option autoImplicit false

/-!
# Sums that change

The work that is left on a core is a sum over its tracks, that of a machine one over its
cores.  Here it is said what becomes of a sum when one of its terms changes (`sum_set_add`,
`sum_map_set_add`), and when some of them fall (`sum_le_of_getElem?`, `sum_lt_of_getElem?`).
-/

namespace CoreArray

/-- Replacing a member of a list changes the sum by the difference. -/
theorem sum_set_add {xs : List Nat} {place x : Nat} (h : xs[place]? = some x) (y : Nat) :
    (xs.set place y).sum + x = xs.sum + y := by
  induction xs generalizing place with
  | nil => simp at h
  | cons first rest ih =>
      cases place with
      | zero =>
          rw [List.getElem?_cons_zero, Option.some.injEq] at h
          rw [List.set_cons_zero, List.sum_cons, List.sum_cons, h]
          omega
      | succ place =>
          rw [List.getElem?_cons_succ] at h
          have hrest := ih h
          rw [List.set_cons_succ, List.sum_cons, List.sum_cons]
          omega

/-- Sums over two lists that differ at one place differ by what stands there. -/
theorem sum_map_set_add {α : Type} {f g : α → Nat} {items : List α} {place : Nat} {item : α}
    (hget : items[place]? = some item) (new : α)
    (hothers : ∀ (other : Nat) (found : α), other ≠ place → items[other]? = some found →
      g found = f found) :
    ((items.set place new).map g).sum + f item = (items.map f).sum + g new := by
  have hmap : (items.map f)[place]? = some (f item) := by rw [List.getElem?_map, hget]; rfl
  have hset : (items.set place new).map g = (items.map f).set place (g new) := by
    apply List.ext_getElem?
    intro other
    rw [List.getElem?_map, List.getElem?_set, List.getElem?_set, List.length_map]
    by_cases hplace : place = other
    · rw [if_pos hplace, if_pos hplace]
      split <;> rfl
    · rw [if_neg hplace, if_neg hplace, List.getElem?_map]
      cases hfound : items[other]? with
      | none => rfl
      | some found => exact congrArg some (hothers other found (Ne.symm hplace) hfound)
  rw [hset]
  exact sum_set_add hmap (g new)

/-- Smaller members make a smaller sum. -/
theorem sum_le_of_getElem? {xs ys : List Nat} (hlength : xs.length = ys.length)
    (h : ∀ (place x y : Nat), xs[place]? = some x → ys[place]? = some y → x ≤ y) :
    xs.sum ≤ ys.sum := by
  refine List.Forall₂.sum_le_sum (List.forall₂_iff_get.mpr ⟨hlength, fun place hx hy => ?_⟩)
  exact h place _ _ (List.getElem?_eq_getElem hx) (List.getElem?_eq_getElem hy)

/-- The sum is strictly smaller if one of the members is. -/
theorem sum_lt_of_getElem? {xs ys : List Nat} {place x y : Nat} (hlength : xs.length = ys.length)
    (h : ∀ (place x y : Nat), xs[place]? = some x → ys[place]? = some y → x ≤ y)
    (hx : xs[place]? = some x) (hy : ys[place]? = some y) (hlt : x < y) :
    xs.sum < ys.sum := by
  -- Raise the smaller member first: the sum grows, and stays below the other.
  have hraised : (xs.set place y).sum ≤ ys.sum := by
    refine sum_le_of_getElem? (by rw [List.length_set, hlength]) ?_
    intro other a b ha hb
    rw [List.getElem?_set] at ha
    split at ha
    · next heq =>
        subst heq
        rw [hy, Option.some.injEq] at hb
        split at ha
        · rw [Option.some.injEq] at ha
          omega
        · simp at ha
    · exact h other a b ha hb
  have hsum := sum_set_add hx y
  omega

end CoreArray
