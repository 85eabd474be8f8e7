set_option autoImplicit false

/-!
# Order and repeats in lists

A list may have to be without repeats, it may be made of parts of one length, and an item
may have to come behind another (`IsPreceded`).  All this is asked here of any list; it is
used of instructions, of tensors and of nodes.
-/

namespace CoreArray

variable {α β : Type}

/-! ## Repeats -/

/-- A list without its repeats has none. -/
theorem nodup_eraseDups [BEq α] [LawfulBEq α] (items : List α) : items.eraseDups.Nodup := by
  cases items with
  | nil => exact List.nodup_nil
  | cons item items =>
      rw [List.eraseDups_cons, List.nodup_cons]
      refine ⟨?_, nodup_eraseDups (items.filter fun other => !other == item)⟩
      rw [List.mem_eraseDups, List.mem_filter]
      simp
termination_by items.length
decreasing_by exact Nat.lt_succ_of_le (List.length_filter_le _ _)

/-! ## Parts -/

theorem length_flatMap_of_length {f : β → List α} {size : Nat}
    (h : ∀ item, (f item).length = size) (items : List β) :
    (items.flatMap f).length = items.length * size := by
  rw [List.length_flatMap, List.map_congr_left fun item _ => h item, List.map_const',
    List.sum_replicate_nat]

/-! ## Order -/

/-- Whether before each place of `later` in a list there is an `earlier`. -/
def IsPreceded (items : List α) (later earlier : α) : Prop :=
  ∀ before after, items = before ++ later :: after → earlier ∈ before

namespace IsPreceded

variable {later earlier : α}

theorem of_not_mem {items : List α} (h : later ∉ items) : IsPreceded items later earlier := by
  rintro before after rfl
  exact absurd (List.mem_append_right before List.mem_cons_self) h

/-- What comes first in the earlier list precedes everything in the later one. -/
theorem append {items rest : List α} (hitems : IsPreceded items later earlier)
    (hrest : earlier ∈ items ∨ IsPreceded rest later earlier) :
    IsPreceded (items ++ rest) later earlier := by
  intro before after hsplit
  rcases List.append_eq_append_iff.mp hsplit with ⟨middle, rfl, hmiddle⟩ | ⟨middle, rfl, hmiddle⟩
  · rcases hrest with hmem | hrest
    · exact List.mem_append_left middle hmem
    · exact List.mem_append_right items (hrest middle after hmiddle)
  · cases middle with
    | nil =>
        rcases hrest with hmem | hrest
        · rwa [List.append_nil] at hmem
        · exact absurd (hrest [] after hmiddle.symm) List.not_mem_nil
    | cons first middle =>
        obtain ⟨rfl, -⟩ := List.cons.inj hmiddle
        exact hitems before middle rfl

theorem flatMap {items : List β} {f : β → List α}
    (h : ∀ item ∈ items, IsPreceded (f item) later earlier) :
    IsPreceded (items.flatMap f) later earlier := by
  induction items with
  | nil => exact of_not_mem List.not_mem_nil
  | cons item items ih =>
      rw [List.flatMap_cons]
      exact (h item List.mem_cons_self).append
        (.inr (ih fun other hmem => h other (List.mem_cons_of_mem _ hmem)))

end IsPreceded

end CoreArray
