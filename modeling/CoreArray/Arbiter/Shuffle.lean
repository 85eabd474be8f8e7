import CoreArray.Arbiter.Keystream
import CoreArray.Arithmetic
set_option autoImplicit false

/-!
# Shuffling (SPEC §4.5)

A shuffle swaps each place, from the last to the second, with a random place not
after it.  A random place below `n` is the high half of the product of `n` with
a random word; products whose low half lies beyond the largest multiple of `n`
below `2 ^ 32` that is `n` times a power of two are drawn again, so that all
places are equally likely.
-/

namespace CoreArray.Generator

/-- The last low half that is taken: `n` shifted up to the full word, less
one. -/
def zone (n : Nat) : Nat := n * twoPow (31 - n.log2) - 1

/-- The number of words. -/
def wordCount : Nat := 4294967296

/-- Draws after which a word is taken as it comes.  Each draw is refused with a
chance below one half. -/
def redraws : Nat := 1024

/-- Draw a place below `n`. -/
def placeBelow (n : Nat) : (redraws : Nat) → Generator → Nat × Generator
  | 0, g => (0, g)
  | redraws + 1, g =>
      let (word, g) := g.next
      let product := word * n
      if product % wordCount ≤ zone n then (product / wordCount, g) else placeBelow n redraws g

/-- Shuffle the places up to a number. -/
def shufflePlaces {α : Type} (items : Array α) : (last : Nat) → Generator → Array α × Generator
  | 0, g => (items, g)
  | last + 1, g =>
      let (place, g) := placeBelow (last + 2) redraws g
      shufflePlaces (items.swapIfInBounds (last + 1) place) last g

/-- Shuffle a list. -/
def shuffle {α : Type} (g : Generator) (items : List α) : List α × Generator :=
  let (items, g) := shufflePlaces items.toArray (items.length - 1) g
  (items.toList, g)

/-! ## What a shuffle keeps -/

theorem swapIfInBounds_perm {α : Type} (items : Array α) (i j : Nat) :
    (items.swapIfInBounds i j).Perm items := by
  rw [Array.swapIfInBounds_def]
  split
  · split
    · exact Array.swap_perm _ _
    · exact Array.Perm.refl items
  · exact Array.Perm.refl items

theorem shufflePlaces_perm {α : Type} (items : Array α) (last : Nat) (g : Generator) :
    (shufflePlaces items last g).1.Perm items := by
  induction last generalizing items g with
  | zero => exact Array.Perm.refl items
  | succ last ih =>
      unfold shufflePlaces
      exact (ih _ _).trans (swapIfInBounds_perm items _ _)

/-- A shuffle only changes the order. -/
theorem shuffle_perm {α : Type} (g : Generator) (items : List α) :
    (g.shuffle items).1.Perm items := by
  unfold shuffle
  have h := shufflePlaces_perm items.toArray (items.length - 1) g
  rw [Array.perm_iff_toList_perm] at h
  exact h

end CoreArray.Generator
