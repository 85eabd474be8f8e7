import CoreArray.Arithmetic
import CoreArray.Text.Pieces
import Std.Data.ExtTreeMap
import Std.Data.ExtTreeSet
set_option autoImplicit false

/-!
# Nodes and links (SPEC §10.6)

The cores of an array are the nodes of a network, numbered from zero.  Sets of
nodes are listed in ascending order; links are ordered by their start and, for
one start, by their end.
-/

namespace CoreArray

/-- A node of the network. -/
abbrev Node : Type := Nat

/-- A set of nodes. -/
abbrev NodeSet : Type := Std.ExtTreeSet Node

namespace NodeSet

/-- The set of the members of a list. -/
def ofNodes (nodes : List Node) : NodeSet := nodes.foldl (fun set node => set.insert node) ∅

/-- A set of nodes in a text, as `{2, 3}`. -/
def text (set : NodeSet) : String := Text.braced (set.toList.map toString)

end NodeSet

/-- A directed link between two nodes. -/
structure Link where
  start : Node
  stop : Node
  deriving DecidableEq, Repr, Inhabited

namespace Link

/-- Links by their start, then by their end. -/
def order : Link → Link → Ordering := compareLex (compareOn Link.start) (compareOn Link.stop)

instance : Ord Link := ⟨order⟩

instance : Std.TransOrd Link :=
  inferInstanceAs (Std.TransCmp (compareLex (compareOn Link.start) (compareOn Link.stop)))

instance : Std.LawfulEqOrd Link where
  eq_of_compare := by
    intro a b h
    have h : (compare a.start b.start).then (compare a.stop b.stop) = .eq := h
    rw [Ordering.then_eq_eq, Std.compare_eq_iff_eq, Std.compare_eq_iff_eq] at h
    cases a
    cases b
    simp_all

/-- A link in a text, as `0-1`. -/
def text (link : Link) : String := s!"{link.start}-{link.stop}"

instance : ToString Link := ⟨text⟩

end Link

end CoreArray
