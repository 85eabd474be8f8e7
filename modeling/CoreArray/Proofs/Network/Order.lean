import CoreArray.Proofs.Network.Transit
set_option autoImplicit false

/-!
# Copies travel in time (SPEC §10.9)

The copies in flight stand in the order of the cycles at which they are due, as the keys
of their table do.  So a delivery that stops at the first copy that is not due leaves no
copy behind that is (`IsOrdered.late`), and every copy arrives in the cycle at which it is
due: so many cycles after it was put in as it travels, counted in words.
-/

namespace CoreArray.Network

/-- Whether copies stand in the order of the cycles at which they are due. -/
def IsOrdered (flights : List Flight) : Prop :=
  flights.Pairwise fun earlier later => earlier.due ≤ later.due

/-- The cycles that the copy of a packet for a destination travels. -/
def travel (network : Network) (packet : Packet) (dest : Node) : Nat :=
  (packet.path.hopsTo dest).getD 0 * network.cyclesPerHop + packet.size

/-! ## The order of the flights -/

/-- Whatever the network does, its copies in flight are in order. -/
theorem isOrdered_flights (network : Network) : IsOrdered network.flights := by
  refine List.pairwise_map.mpr ((isSorted_toList network.copies).imp ?_)
  intro earlier later hlt
  rcases FlightKey.compare_eq_lt_iff.mp hlt with hdue | ⟨hdue, -⟩
  · exact Nat.le_of_lt hdue
  · exact Nat.le_of_eq hdue

section Steps

variable {network : Network} {cycle : Cycle}

/-! ## Times of arrival -/

/-- If the first copy is not due, none is. -/
theorem IsOrdered.late {flights : List Flight} (h : IsOrdered flights)
    (hfirst : ∀ flight ∈ flights.head?, cycle < flight.due) :
    ∀ flight ∈ flights, cycle < flight.due := by
  cases flights with
  | nil => simp
  | cons first rest =>
      have hdue := hfirst first rfl
      intro flight hmem
      rcases List.mem_cons.mp hmem with rfl | hmem
      · exact hdue
      · exact Nat.lt_of_lt_of_le hdue ((List.pairwise_cons.mp h).1 flight hmem)

/-- A copy that is put in is due when it has travelled. -/
theorem due_of_waiting {ports : List Port} {flight : Flight}
    (h : flight ∈ network.waitingCopies cycle ports) :
    flight.due = wrap (cycle + network.travel flight.packet flight.dest) ∧
      ∃ port ∈ ports, flight.packet ∈ port.outbound := by
  obtain ⟨port, hport, hmem⟩ := List.mem_flatMap.mp h
  obtain ⟨packet, hpacket, hcopy⟩ := List.mem_flatMap.mp hmem
  obtain ⟨dest, -, rfl⟩ := List.mem_map.mp hcopy
  exact ⟨congrArg wrap (Nat.add_assoc _ _ _), port, hport, hpacket⟩

end Steps

end CoreArray.Network
