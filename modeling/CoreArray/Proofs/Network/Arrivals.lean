import CoreArray.Proofs.Network.Order
import CoreArray.Proofs.Network.Routable
set_option autoImplicit false

/-!
# Copies arrive once, in time and in order (SPEC §10.9)

A network takes steps at cycles that never go back, and between two steps the ports may
change in any way.  A packet that a step takes up becomes a copy per destination, its
`Dispatch`, which is due after the time that it travels.  The copy arrives in the first later
step at whose cycle it is due, once, behind what its port has; and copies arrive in the order
of the cycles at which they are due, those due at one cycle in the order in which they were
put in.

The cycle at which a copy is due is counted in words.  A copy whose cycle does not fit into a
word is due before it was put in, arrives at once (`copy_arrives_early`), and so comes behind
copies that were due later; the order of arrivals in one step, and the place of each copy that
fits, do not suffer by that (`Arrival.Precedes`).

`Account` is what holds of a course so far: what has arrived, `log`, and what is in flight,
`pending`, make up what was put in.  `Account.next` keeps it through a step.  No two copies
share a `key`, and a copy is due for the first time in one step only, so none arrives twice.
-/

namespace CoreArray.Network

/-! ## Courses -/

/-- A step of the past: the network and the ports as they were, the cycle, and what came of
it. -/
structure PastMove where
  network : Network
  ports : List Port
  cycle : Cycle
  transit : Transit

/-- The steps that lead from one network to another, the first one first, with the ports that
they leave.  Between two steps the ports may become any others, as many. -/
inductive Course (start : Network) : List PastMove → Network → List Port → Prop
  | start (ports : List Port) : Course start [] start ports
  | step {past : List PastMove} {network : Network} {ports : List Port}
      (h : Course start past network ports) (watch : Watch) (cycle : Cycle) :
      Course start (past ++ [⟨network, ports, cycle, network.step watch cycle ports⟩])
        (network.step watch cycle ports).network (network.step watch cycle ports).ports
  | exchange {past : List PastMove} {network : Network} {ports others : List Port}
      (h : Course start past network ports) (hlength : others.length = ports.length) :
      Course start past network others

/-- Whether the clock never goes back in a course. -/
def IsForward (past : List PastMove) : Prop :=
  past.Pairwise fun earlier later => earlier.cycle ≤ later.cycle

/-- Whether an array with as many nodes as ports can carry all packets that a step takes
up. -/
def PastMove.IsRoutable (move : PastMove) : Prop :=
  ∀ port ∈ move.ports, ∀ packet ∈ port.outbound, packet.IsRoutable move.ports.length

/-- A copy that a step has put into the network. -/
structure Dispatch where
  /-- The number of the step. -/
  step : Nat
  /-- The node of the port at which the packet waited. -/
  port : Nat
  /-- The place that the packet had in the queue of the port. -/
  place : Nat
  flight : Flight

/-- The place of a copy in the order in which copies are put in: by the step, by the port, by
the place in its queue, by the destination. -/
def Dispatch.rank (dispatch : Dispatch) : List Nat :=
  [dispatch.step, dispatch.port, dispatch.place, dispatch.flight.dest]

/-- The place of a copy in the order in which copies arrive: by the cycle at which it is due,
then in the order in which they are put in. -/
def Dispatch.key (dispatch : Dispatch) : List Nat := dispatch.flight.due :: dispatch.rank

/-- Whether the cycle at which a copy is due fits into a word. -/
def Dispatch.Fits (past : List PastMove) (dispatch : Dispatch) : Prop :=
  ∀ move, past[dispatch.step]? = some move →
    FitsWord (move.cycle + move.network.travel dispatch.flight.packet dispatch.flight.dest)

/-- The copies that a step puts in, in that order. -/
def PastMove.dispatches (move : PastMove) (number : Nat) : List Dispatch :=
  move.ports.zipIdx.flatMap fun (port, index) =>
    port.outbound.zipIdx.flatMap fun (packet, place) =>
      packet.dests.toList.map fun dest =>
        ⟨number, index, place, move.network.copyOf move.cycle packet dest⟩

/-- The copies that the steps of a course put in. -/
def dispatches (past : List PastMove) : List Dispatch :=
  past.zipIdx.flatMap fun (move, number) => move.dispatches number

/-- A copy that has arrived, and the number of the step in which it did. -/
structure Arrival where
  dispatch : Dispatch
  step : Nat

/-- The packets that arrive at a node in a step, in their order. -/
def packetsIn (log : List Arrival) (step : Nat) (node : Node) : List Packet :=
  packetsFor node ((log.filter fun arrival => arrival.step == step).map fun arrival =>
    arrival.dispatch.flight)

/-- Whether a step is the first one, after that which put a copy in, at whose cycle the copy
is due. -/
structure IsFirstDue (past : List PastMove) (dispatch : Dispatch) (number : Nat) : Prop where
  after : dispatch.step < number
  due : ∃ move, past[number]? = some move ∧ dispatch.flight.due ≤ move.cycle
  first : ∀ (between : Nat) (move : PastMove), dispatch.step < between → between < number →
    past[between]? = some move → move.cycle < dispatch.flight.due

/-! ## The order of the copies -/

/-- Whether copies stand in the order in which they arrive. -/
def InOrder (pending : List Dispatch) : Prop :=
  pending.Pairwise fun earlier later => earlier.key < later.key

section Keys

variable {dispatch other : Dispatch}

theorem key_lt_iff : dispatch.key < other.key ↔
    dispatch.flight.due < other.flight.due ∨
      dispatch.flight.due = other.flight.due ∧ dispatch.rank < other.rank :=
  List.cons_lt_cons_iff

theorem rank_lt_of_step (h : dispatch.step < other.step) : dispatch.rank < other.rank :=
  List.cons_lt_cons_iff.mpr (.inl h)

theorem due_le_of_key (h : dispatch.key < other.key) :
    dispatch.flight.due ≤ other.flight.due := by
  rcases key_lt_iff.mp h with hlt | ⟨heq, -⟩
  · exact Nat.le_of_lt hlt
  · exact Nat.le_of_eq heq

theorem key_lt_of_rank (hdue : dispatch.flight.due ≤ other.flight.due)
    (hrank : dispatch.rank < other.rank) : dispatch.key < other.key := by
  rcases Nat.lt_or_eq_of_le hdue with hlt | heq
  · exact key_lt_iff.mpr (.inl hlt)
  · exact key_lt_iff.mpr (.inr ⟨heq, hrank⟩)

theorem InOrder.isOrdered {pending : List Dispatch} (h : InOrder pending) :
    IsOrdered (pending.map Dispatch.flight) :=
  List.pairwise_map.mpr (h.imp due_le_of_key)

end Keys

/-- A copy that is put in last takes its place in the order. -/
theorem launch_inOrder (dispatch : Dispatch) {pending : List Dispatch} (h : InOrder pending)
    (hlast : ∀ other ∈ pending, other.rank < dispatch.rank) :
    ∃ after, launch dispatch.flight (pending.map Dispatch.flight) = after.map Dispatch.flight ∧
      after.Perm (dispatch :: pending) ∧ InOrder after := by
  induction pending with
  | nil => exact ⟨[dispatch], rfl, List.Perm.refl _, List.pairwise_singleton _ _⟩
  | cons first rest ih =>
      obtain ⟨hfirst, hrest⟩ := List.pairwise_cons.mp h
      rw [List.map_cons]
      unfold launch
      split
      · next hle =>
          obtain ⟨after, hafter, hperm, horder⟩ :=
            ih hrest fun other hmem => hlast other (List.mem_cons_of_mem first hmem)
          refine ⟨first :: after, by rw [hafter]; rfl,
            (hperm.cons first).trans (List.Perm.swap dispatch first rest), ?_⟩
          refine List.pairwise_cons.mpr ⟨fun other hmem => ?_, horder⟩
          rcases List.mem_cons.mp (hperm.mem_iff.mp hmem) with rfl | hmem
          · exact key_lt_of_rank hle (hlast first List.mem_cons_self)
          · exact hfirst other hmem
      · next hlt =>
          refine ⟨dispatch :: first :: rest, rfl, List.Perm.refl _,
            List.pairwise_cons.mpr ⟨fun other hmem => ?_, h⟩⟩
          have hbefore : dispatch.flight.due < first.flight.due := Nat.lt_of_not_le hlt
          rcases List.mem_cons.mp hmem with rfl | hmem
          · exact key_lt_iff.mpr (.inl hbefore)
          · have hdue := due_le_of_key (hfirst other hmem)
            exact key_lt_iff.mpr (.inl (Nat.lt_of_lt_of_le hbefore hdue))

/-- Copies that are put in, one after the other, take their places in the order. -/
theorem launchAll_inOrder {news pending : List Dispatch} (h : InOrder pending)
    (hnews : news.Pairwise fun earlier later => earlier.rank < later.rank)
    (hlast : ∀ other ∈ pending, ∀ dispatch ∈ news, other.rank < dispatch.rank) :
    ∃ after, launchAll (news.map Dispatch.flight) (pending.map Dispatch.flight) =
        after.map Dispatch.flight ∧
      after.Perm (news ++ pending) ∧ InOrder after := by
  induction news generalizing pending with
  | nil => exact ⟨pending, rfl, List.Perm.refl _, h⟩
  | cons dispatch news ih =>
      obtain ⟨hfirst, hrest⟩ := List.pairwise_cons.mp hnews
      obtain ⟨between, hbetween, hperm, horder⟩ :=
        launch_inOrder dispatch h fun other hmem => hlast other hmem dispatch List.mem_cons_self
      have hbefore : ∀ other ∈ between, ∀ later ∈ news, other.rank < later.rank := by
        intro other hmem later hlater
        rcases List.mem_cons.mp (hperm.mem_iff.mp hmem) with rfl | hmem
        · exact hfirst later hlater
        · exact hlast other hmem later (List.mem_cons_of_mem dispatch hlater)
      obtain ⟨after, hafter, hafterPerm, hafterOrder⟩ := ih horder hrest hbefore
      refine ⟨after, ?_, ?_, hafterOrder⟩
      · rw [← hafter, ← hbetween]
        rfl
      · exact hafterPerm.trans ((hperm.append_left news).trans List.perm_middle)

/-! ## The copies of a course -/

section Dispatches

variable {past : List PastMove} {move : PastMove} {number : Nat} {dispatch : Dispatch}

theorem mem_dispatchesOf : dispatch ∈ move.dispatches number ↔
    dispatch.step = number ∧ ∃ port packet dest, move.ports[dispatch.port]? = some port ∧
      port.outbound[dispatch.place]? = some packet ∧ dest ∈ packet.dests.toList ∧
      dispatch.flight = move.network.copyOf move.cycle packet dest := by
  unfold PastMove.dispatches
  simp only [List.mem_flatMap, List.mem_map, Prod.exists, List.mk_mem_zipIdx_iff_getElem?]
  constructor
  · rintro ⟨port, index, hport, packet, place, hpacket, dest, hdest, rfl⟩
    exact ⟨rfl, port, packet, dest, hport, hpacket, hdest, rfl⟩
  · rintro ⟨rfl, port, packet, dest, hport, hpacket, hdest, hflight⟩
    exact ⟨port, _, hport, packet, _, hpacket, dest, hdest, by rw [← hflight]⟩

theorem mem_dispatches : dispatch ∈ dispatches past ↔
    ∃ move, past[dispatch.step]? = some move ∧ dispatch ∈ move.dispatches dispatch.step := by
  unfold dispatches
  simp only [List.mem_flatMap, Prod.exists, List.mk_mem_zipIdx_iff_getElem?]
  constructor
  · rintro ⟨move, number, hmove, hmem⟩
    obtain ⟨rfl, -⟩ := mem_dispatchesOf.mp hmem
    exact ⟨move, hmove, hmem⟩
  · rintro ⟨move, hmove, hmem⟩
    exact ⟨move, _, hmove, hmem⟩

theorem dispatches_append (past : List PastMove) (move : PastMove) :
    dispatches (past ++ [move]) = dispatches past ++ move.dispatches past.length := by
  unfold dispatches
  rw [List.zipIdx_append, List.flatMap_append]
  simp

theorem step_lt_of_mem (h : dispatch ∈ dispatches past) : dispatch.step < past.length := by
  obtain ⟨move, hmove, -⟩ := mem_dispatches.mp h
  exact (List.getElem?_eq_some_iff.mp hmove).1

/-- A copy whose cycle fits into a word is due at the cycle at which it is put in or later. -/
theorem cycle_le_due (h : dispatch ∈ dispatches past) (hfits : dispatch.Fits past)
    (hmove : past[dispatch.step]? = some move) : move.cycle ≤ dispatch.flight.due := by
  obtain ⟨origin, horigin, hmem⟩ := mem_dispatches.mp h
  obtain rfl := Option.some.inj (horigin.symm.trans hmove)
  obtain ⟨-, port, packet, dest, -, -, -, hflight⟩ := mem_dispatchesOf.mp hmem
  have hsum := hfits origin hmove
  rw [hflight] at hsum ⊢
  unfold copyOf dueAt
  unfold travel copyOf at hsum
  dsimp only at hsum ⊢
  rw [Nat.add_assoc, wrap_of_fitsWord hsum]
  exact Nat.le_add_right _ _

theorem pairwise_zipIdx {α : Type} (items : List α) :
    items.zipIdx.Pairwise fun earlier later => earlier.2 < later.2 := by
  have hplaces : (items.zipIdx.map Prod.snd).Pairwise (· < ·) := by
    rw [List.zipIdx_map_snd]
    exact List.pairwise_lt_range'
  exact List.pairwise_map.mp hplaces

/-- A step puts its copies in by port, by place and by destination. -/
theorem dispatches_pairwise (move : PastMove) (number : Nat) :
    (move.dispatches number).Pairwise fun earlier later => earlier.rank < later.rank := by
  unfold PastMove.dispatches
  refine List.pairwise_flatMap.mpr ⟨?_, ?_⟩
  · rintro ⟨port, index⟩ -
    refine List.pairwise_flatMap.mpr ⟨?_, ?_⟩
    · rintro ⟨packet, place⟩ -
      refine List.pairwise_map.mpr (Std.ExtTreeSet.ordered_toList.imp ?_)
      intro dest later hlt
      have hdest : dest < later := Nat.compare_eq_lt.mp hlt
      simp [Dispatch.rank, copyOf, List.cons_lt_cons_iff, hdest]
    · refine (pairwise_zipIdx port.outbound).imp ?_
      rintro ⟨packet, place⟩ ⟨laterPacket, later⟩ hlt dispatch hmem other hother
      obtain ⟨dest, -, rfl⟩ := List.mem_map.mp hmem
      obtain ⟨laterDest, -, rfl⟩ := List.mem_map.mp hother
      simp [Dispatch.rank, List.cons_lt_cons_iff, hlt]
  · refine (pairwise_zipIdx move.ports).imp ?_
    rintro ⟨port, index⟩ ⟨laterPort, later⟩ hlt dispatch hmem other hother
    obtain ⟨⟨packet, place⟩, -, hmem⟩ := List.mem_flatMap.mp hmem
    obtain ⟨dest, -, rfl⟩ := List.mem_map.mp hmem
    obtain ⟨⟨laterPacket, laterPlace⟩, -, hother⟩ := List.mem_flatMap.mp hother
    obtain ⟨laterDest, -, rfl⟩ := List.mem_map.mp hother
    simp [Dispatch.rank, List.cons_lt_cons_iff, hlt]

theorem flatMap_zipIdx {α β : Type} (items : List α) (f : α → List β) :
    (items.zipIdx.flatMap fun entry => f entry.1) = items.flatMap f := by
  have hitems : (items.zipIdx.map Prod.fst).flatMap f = items.flatMap f := by
    rw [List.zipIdx_map_fst]
  rw [← hitems, List.flatMap_map]

/-- What a step puts in are the copies of the packets that wait. -/
theorem map_flight_dispatches (move : PastMove) (number : Nat) :
    (move.dispatches number).map Dispatch.flight =
      move.network.waitingCopies move.cycle move.ports := by
  unfold PastMove.dispatches waitingCopies
  rw [List.map_flatMap, ← flatMap_zipIdx move.ports]
  congr 1
  funext ⟨port, index⟩
  rw [List.map_flatMap, ← flatMap_zipIdx port.outbound]
  congr 1
  funext ⟨packet, place⟩
  rw [List.map_map]
  rfl

end Dispatches

/-! ## Steps that are the first to deliver a copy -/

section FirstDue

variable {past : List PastMove} {move : PastMove} {dispatch : Dispatch} {number other : Nat}

theorem IsFirstDue.lt_length (h : IsFirstDue past dispatch number) : number < past.length := by
  obtain ⟨move, hmove, -⟩ := h.due
  exact (List.getElem?_eq_some_iff.mp hmove).1

theorem IsFirstDue.not_lt (h : IsFirstDue past dispatch number)
    (hother : IsFirstDue past dispatch other) : ¬ number < other := by
  intro hlt
  obtain ⟨move, hmove, hdue⟩ := h.due
  exact absurd hdue (Nat.not_le_of_lt (hother.first number move h.after hlt hmove))

/-- A copy arrives in one step only. -/
theorem IsFirstDue.unique (h : IsFirstDue past dispatch number)
    (hother : IsFirstDue past dispatch other) : number = other :=
  Nat.le_antisymm (Nat.le_of_not_lt (hother.not_lt h)) (Nat.le_of_not_lt (h.not_lt hother))

/-- A step that comes later does not change which step was the first. -/
theorem IsFirstDue.append (h : IsFirstDue past dispatch number) (move : PastMove) :
    IsFirstDue (past ++ [move]) dispatch number := by
  have hlength := h.lt_length
  refine ⟨h.after, ?_, ?_⟩
  · obtain ⟨found, hfound, hdue⟩ := h.due
    exact ⟨found, by rw [List.getElem?_append_left hlength, hfound], hdue⟩
  · intro between found hafter hbefore hfound
    rw [List.getElem?_append_left (Nat.lt_trans hbefore hlength)] at hfound
    exact h.first between found hafter hbefore hfound

end FirstDue

/-! ## The account of a course -/

/-- Whether a copy may come before another in a log: those that arrive in one step stand in
order, and a copy whose cycle fits into a word stands behind all that come before it. -/
structure Arrival.Precedes (past : List PastMove) (arrival later : Arrival) : Prop where
  step : arrival.step ≤ later.step
  together : arrival.step = later.step → arrival.dispatch.key < later.dispatch.key
  fits : later.dispatch.Fits past → arrival.dispatch.key < later.dispatch.key

/-- A copy that fits after one step more fitted before. -/
theorem Dispatch.Fits.of_append {past : List PastMove} {move : PastMove} {dispatch : Dispatch}
    (h : dispatch.Fits (past ++ [move])) : dispatch.Fits past := by
  intro found hfound
  obtain ⟨hlt, -⟩ := List.getElem?_eq_some_iff.mp hfound
  exact h found (by rw [List.getElem?_append_left hlt, hfound])

/-- What holds of a course whose copies have arrived as a log says, up to those that are in
flight. -/
structure Account (past : List PastMove) (network : Network) (log : List Arrival)
    (pending : List Dispatch) : Prop where
  flights : network.flights = pending.map Dispatch.flight
  inOrder : InOrder pending
  split : (log.map Arrival.dispatch ++ pending).Perm (dispatches past)
  /-- A copy in flight was due in no step since it was put in. -/
  late : ∀ dispatch ∈ pending, ∀ (number : Nat) (move : PastMove), dispatch.step < number →
    past[number]? = some move → move.cycle < dispatch.flight.due
  prompt : ∀ arrival ∈ log, IsFirstDue past arrival.dispatch arrival.step
  precedes : log.Pairwise (Arrival.Precedes past)
  moved : ∀ (number : Nat) (move : PastMove), past[number]? = some move →
    move.transit.result = .ok () ∧ move.network.cyclesPerHop = network.cyclesPerHop ∧
      ∀ node, move.transit.ports[node]? = move.ports[node]?.map fun port =>
        (⟨[], port.inbound ++ packetsIn log number node⟩ : Port)

section Accounts

variable {past : List PastMove} {network : Network} {ports : List Port} {log : List Arrival}
  {pending : List Dispatch} {watch : Watch} {cycle : Cycle}

theorem getElem?_append_one {α : Type} {items : List α} {item found : α} {number : Nat}
    (h : (items ++ [item])[number]? = some found) :
    items[number]? = some found ∨ number = items.length ∧ found = item := by
  rcases Nat.lt_or_ge number items.length with hlt | hge
  · rw [List.getElem?_append_left hlt] at h
    exact .inl h
  · rw [List.getElem?_append_right hge] at h
    obtain ⟨hnumber, hfound⟩ := List.getElem?_eq_some_iff.mp h
    rw [List.length_singleton] at hnumber
    refine .inr ⟨by omega, ?_⟩
    rw [← hfound]
    simp

/-- The copies that arrive in a step do not arrive in another. -/
theorem packetsIn_append_of_ne {delivered : List Dispatch} {number last : Nat}
    (h : number ≠ last) (node : Node) :
    packetsIn (log ++ delivered.map fun dispatch => ⟨dispatch, last⟩) number node =
      packetsIn log number node := by
  have hnone : (delivered.map fun dispatch => (⟨dispatch, last⟩ : Arrival)).filter
      (fun arrival => arrival.step == number) = [] := by
    apply List.filter_eq_nil_iff.mpr
    intro arrival hmem
    obtain ⟨dispatch, -, rfl⟩ := List.mem_map.mp hmem
    simp [h.symm]
  unfold packetsIn
  rw [List.filter_append, hnone, List.append_nil]

/-- The copies that arrive in the next step are the packets of that step. -/
theorem Account.packetsIn_append_last (h : Account past network log pending)
    (delivered : List Dispatch) (node : Node) :
    packetsIn (log ++ delivered.map fun dispatch => ⟨dispatch, past.length⟩) past.length node =
      packetsFor node (delivered.map Dispatch.flight) := by
  have hnone : (log.filter fun arrival => arrival.step == past.length) = [] := by
    apply List.filter_eq_nil_iff.mpr
    intro arrival hmem
    simpa using Nat.ne_of_lt (h.prompt arrival hmem).lt_length
  have hall : (delivered.map fun dispatch => (⟨dispatch, past.length⟩ : Arrival)).filter
      (fun arrival => arrival.step == past.length) =
        delivered.map fun dispatch => ⟨dispatch, past.length⟩ := by
    apply List.filter_eq_self.mpr
    intro arrival hmem
    obtain ⟨dispatch, -, rfl⟩ := List.mem_map.mp hmem
    exact beq_self_eq_true past.length
  unfold packetsIn
  rw [List.filter_append, hnone, hall, List.nil_append, List.map_map]
  rfl

/-- What arrives in a step comes behind all that has arrived before, if its cycle fits into a
word. -/
theorem Account.key_lt_of_pending (h : Account past network log pending)
    (hforward : IsForward past) {arrival : Arrival} (harrival : arrival ∈ log)
    {dispatch : Dispatch} (hpending : dispatch ∈ pending) (hfits : dispatch.Fits past) :
    arrival.dispatch.key < dispatch.key := by
  obtain ⟨hafter, ⟨move, hmove, hdue⟩, -⟩ := h.prompt arrival harrival
  rcases Nat.lt_or_ge dispatch.step arrival.step with hlt | hge
  · -- The copy was in flight in the step, but not due.
    have hlate := h.late dispatch hpending arrival.step move hlt hmove
    exact key_lt_iff.mpr (.inl (Nat.lt_of_le_of_lt hdue hlate))
  · -- The copy was put in by that step or later, and is not due before.
    have hmem : dispatch ∈ dispatches past :=
      h.split.mem_iff.mp (List.mem_append_right _ hpending)
    obtain ⟨origin, horigin, -⟩ := mem_dispatches.mp hmem
    have hcycle : move.cycle ≤ origin.cycle := by
      rcases Nat.lt_or_eq_of_le hge with hlt | heq
      · obtain ⟨hfirst, rfl⟩ := List.getElem?_eq_some_iff.mp hmove
        obtain ⟨hsecond, rfl⟩ := List.getElem?_eq_some_iff.mp horigin
        exact List.pairwise_iff_getElem.mp hforward _ _ hfirst hsecond hlt
      · rw [← heq, hmove, Option.some.injEq] at horigin
        exact Nat.le_of_eq (congrArg PastMove.cycle horigin)
    have hlater := cycle_le_due hmem hfits horigin
    exact key_lt_of_rank (Nat.le_trans hdue (Nat.le_trans hcycle hlater))
      (rank_lt_of_step (Nat.lt_of_lt_of_le hafter hge))

/-- The copies that arrive in the next step come behind the log, in the order in which they
were in flight. -/
theorem Account.precedes_append {delivered rest : List Dispatch}
    (h : Account past network log (delivered ++ rest)) (hforward : IsForward past)
    (move : PastMove) :
    (log ++ delivered.map fun dispatch => (⟨dispatch, past.length⟩ : Arrival)).Pairwise
      (Arrival.Precedes (past ++ [move])) := by
  obtain ⟨hdelivered, -, -⟩ := List.pairwise_append.mp h.inOrder
  refine List.pairwise_append.mpr ⟨?_, ?_, ?_⟩
  · exact h.precedes.imp fun hlog => ⟨hlog.step, hlog.together, fun hfits =>
      hlog.fits hfits.of_append⟩
  · exact List.pairwise_map.mpr
      (hdelivered.imp fun hlt => ⟨Nat.le_refl _, fun _ => hlt, fun _ => hlt⟩)
  · intro arrival harrival later hlater
    obtain ⟨dispatch, hdispatch, rfl⟩ := List.mem_map.mp hlater
    have hstep := (h.prompt arrival harrival).lt_length
    exact ⟨Nat.le_of_lt hstep, fun hsame => absurd hsame (Nat.ne_of_lt hstep), fun hfits =>
      h.key_lt_of_pending hforward harrival (List.mem_append_left rest hdispatch)
        hfits.of_append⟩

/-- The copies in flight are for nodes if all packets that were taken up are routable. -/
theorem Account.dest_lt (h : Account past network log pending)
    (hroutable : ∀ move ∈ past, move.IsRoutable)
    (hlength : ∀ move ∈ past, move.ports.length = ports.length) :
    ∀ flight ∈ network.flights, flight.dest < ports.length := by
  intro flight hmem
  rw [h.flights] at hmem
  obtain ⟨dispatch, hpending, rfl⟩ := List.mem_map.mp hmem
  have hdispatch := h.split.mem_iff.mp (List.mem_append_right _ hpending)
  obtain ⟨move, hmove, hcopy⟩ := mem_dispatches.mp hdispatch
  obtain ⟨-, port, packet, dest, hport, hpacket, hdest, hflight⟩ := mem_dispatchesOf.mp hcopy
  have hpast := List.mem_of_getElem? hmove
  have hlt := (hroutable move hpast port (List.mem_of_getElem? hport) packet
    (List.mem_of_getElem? hpacket) dest hdest).1
  rw [hlength move hpast] at hlt
  rw [hflight]
  exact hlt

/-- What has arrived and what is in flight stay all that was put in when some of the latter
arrives and more is put in. -/
theorem perm_turnover {arrived delivered rest after news all : List Dispatch}
    (hsplit : (arrived ++ (delivered ++ rest)).Perm all) (hafter : after.Perm (news ++ rest)) :
    (arrived ++ (delivered ++ after)).Perm (all ++ news) := by
  have hlast : after.Perm (rest ++ news) := hafter.trans List.perm_append_comm
  have hwhole := hsplit.append_right news
  rw [List.append_assoc, List.append_assoc] at hwhole
  exact ((hlast.append_left delivered).append_left arrived).trans hwhole

/-- The copies in flight that a step delivers are those that are due. -/
theorem Account.exists_delivered (h : Account past network log pending)
    {deliveredFlights restFlights : List Flight} {transit : Transit}
    (hmove : Move network cycle ports deliveredFlights restFlights transit) :
    ∃ delivered rest, pending = delivered ++ rest ∧
      deliveredFlights = delivered.map Dispatch.flight ∧ restFlights = rest.map Dispatch.flight ∧
      (∀ dispatch ∈ delivered, dispatch.flight.due ≤ cycle) ∧
      ∀ dispatch ∈ rest, cycle < dispatch.flight.due := by
  have hsplit := hmove.split
  rw [h.flights] at hsplit
  obtain ⟨delivered, rest, hpending, rfl, rfl⟩ := List.map_eq_append_iff.mp hsplit
  refine ⟨delivered, rest, hpending, rfl, rfl, ?_, ?_⟩
  · intro dispatch hmem
    exact (hmove.due _ (List.mem_map_of_mem hmem)).1
  · intro dispatch hmem
    have horder := h.inOrder
    rw [hpending] at horder
    have hrest := InOrder.isOrdered (List.pairwise_append.mp horder).2.1
    exact hrest.late hmove.early _ (List.mem_map_of_mem hmem)

variable {move : PastMove} {dispatch : Dispatch}

/-- A copy that was due in no step and is due in the last one arrives in it. -/
theorem isFirstDue_last (hstep : dispatch.step < past.length)
    (hlate : ∀ (number : Nat) (found : PastMove), dispatch.step < number →
      past[number]? = some found → found.cycle < dispatch.flight.due)
    (hdue : dispatch.flight.due ≤ move.cycle) :
    IsFirstDue (past ++ [move]) dispatch past.length := by
  refine ⟨hstep, ⟨move, by simp, hdue⟩, ?_⟩
  intro between found hafter hbefore hfound
  rw [List.getElem?_append_left hbefore] at hfound
  exact hlate between found hafter hfound

/-- A copy in flight that is not due in the last step either was due in no step. -/
theorem late_append (hlate : ∀ (number : Nat) (found : PastMove), dispatch.step < number →
      past[number]? = some found → found.cycle < dispatch.flight.due)
    (hearly : move.cycle < dispatch.flight.due) (number : Nat) (found : PastMove)
    (hnumber : dispatch.step < number) (hfound : (past ++ [move])[number]? = some found) :
    found.cycle < dispatch.flight.due := by
  rcases getElem?_append_one hfound with hold | ⟨-, rfl⟩
  · exact hlate number found hnumber hold
  · exact hearly

/-- A step that succeeds keeps the account: the copies that are due enter the log, and those
that are put in take their places among the others. -/
theorem Account.next (h : Account past network log pending) (hforward : IsForward past)
    (hok : (network.step watch cycle ports).result = .ok ()) :
    ∃ newLog newPending,
      Account (past ++ [⟨network, ports, cycle, network.step watch cycle ports⟩])
        (network.step watch cycle ports).network newLog newPending := by
  generalize hmove : (⟨network, ports, cycle, network.step watch cycle ports⟩ : PastMove) = move
  obtain ⟨deliveredFlights, restFlights, hdone, hnetwork⟩ := step_ok hok
  obtain ⟨delivered, rest, rfl, rfl, rfl, hdue, hearly⟩ := h.exists_delivered hdone
  obtain ⟨-, hrest, -⟩ := List.pairwise_append.mp h.inOrder
  have hstep : ∀ dispatch ∈ delivered ++ rest, dispatch.step < past.length := fun dispatch hmem =>
    step_lt_of_mem (h.split.mem_iff.mp (List.mem_append_right _ hmem))
  have hnews : ∀ other ∈ rest, ∀ dispatch ∈ move.dispatches past.length,
      other.rank < dispatch.rank := by
    intro other hother dispatch hdispatch
    refine rank_lt_of_step ?_
    rw [(mem_dispatchesOf.mp hdispatch).1]
    exact hstep other (List.mem_append_right _ hother)
  obtain ⟨after, hafter, hperm, horder⟩ :=
    launchAll_inOrder hrest (dispatches_pairwise move past.length) hnews
  refine ⟨log ++ delivered.map fun dispatch => ⟨dispatch, past.length⟩, after, ?_, horder, ?_, ?_,
    ?_, ?_, ?_⟩
  · rw [hnetwork.flights, ← hafter, map_flight_dispatches, ← hmove]
  · rw [dispatches_append, List.map_append, List.map_map, List.append_assoc]
    have hdispatches : delivered.map (Arrival.dispatch ∘ fun dispatch => ⟨dispatch, past.length⟩) =
        delivered := List.map_id _
    rw [hdispatches]
    exact perm_turnover h.split hperm
  · intro dispatch hmem number found hnumber hfound
    rcases List.mem_append.mp (hperm.mem_iff.mp hmem) with hnew | hold
    · -- No step comes after that which puts a copy in.
      have hlength := (List.getElem?_eq_some_iff.mp hfound).1
      rw [(mem_dispatchesOf.mp hnew).1] at hnumber
      rw [List.length_append, List.length_singleton] at hlength
      omega
    · refine late_append (h.late dispatch (List.mem_append_right _ hold)) ?_ number found hnumber
        hfound
      rw [← hmove]
      exact hearly dispatch hold
  · intro arrival hmem
    rcases List.mem_append.mp hmem with hold | hnew
    · exact (h.prompt arrival hold).append move
    · obtain ⟨dispatch, hdispatch, rfl⟩ := List.mem_map.mp hnew
      have hpending := List.mem_append_left rest hdispatch
      refine isFirstDue_last (hstep dispatch hpending) (h.late dispatch hpending) ?_
      rw [← hmove]
      exact hdue dispatch hdispatch
  · exact h.precedes_append hforward move
  · intro number found hfound
    rcases getElem?_append_one hfound with hold | ⟨rfl, rfl⟩
    · obtain ⟨hresult, hpace, hports⟩ := h.moved number found hold
      have hlt := (List.getElem?_eq_some_iff.mp hold).1
      refine ⟨hresult, by rw [hpace, hnetwork.cyclesPerHop], ?_⟩
      intro node
      rw [hports node, packetsIn_append_of_ne (Nat.ne_of_lt hlt)]
    · rw [← hmove]
      refine ⟨hok, hnetwork.cyclesPerHop.symm, ?_⟩
      intro node
      rw [hdone.arrived node, h.packetsIn_append_last]

end Accounts

/-! ## Whole courses -/

section Courses

variable {start network : Network} {ports : List Port} {past : List PastMove} {id : EntityId}
  {cyclesPerHop : Nat}

/-- Ports neither come nor go. -/
theorem Course.length_ports (h : Course start past network ports) :
    ∀ move ∈ past, move.ports.length = ports.length := by
  induction h with
  | start ports => simp
  | step h watch cycle ih =>
      intro move hmem
      rw [length_step]
      rcases List.mem_append.mp hmem with hold | hnew
      · exact ih move hold
      · rw [List.mem_singleton] at hnew
        rw [hnew]
  | exchange h hlength ih =>
      intro move hmem
      rw [ih move hmem, hlength]

/-- Every course has its account. -/
theorem Course.account (h : Course (.empty id cyclesPerHop) past network ports)
    (hforward : IsForward past) (hroutable : ∀ move ∈ past, move.IsRoutable) :
    network.cyclesPerHop = cyclesPerHop ∧ ∃ log pending, Account past network log pending := by
  induction h with
  | start ports =>
      refine ⟨rfl, [], [], flights_empty id cyclesPerHop, List.Pairwise.nil, List.Perm.refl _,
        ?_, ?_, List.Pairwise.nil, ?_⟩
      · simp
      · simp
      · simp
  | @step past network ports hcourse watch cycle ih =>
      obtain ⟨hold, -, -⟩ := List.pairwise_append.mp hforward
      have hcarried : ∀ move ∈ past, move.IsRoutable := fun move hmem =>
        hroutable move (List.mem_append_left _ hmem)
      have hwaiting := hroutable _ (List.mem_append_right past List.mem_cons_self)
      obtain ⟨hpace, log, pending, haccount⟩ := ih hold hcarried
      have hok : (network.step watch cycle ports).result = .ok () :=
        step_of_routable (haccount.dest_lt hcarried hcourse.length_ports) hwaiting
      obtain ⟨delivered, rest, -, hnetwork⟩ := step_ok hok
      exact ⟨by rw [hnetwork.cyclesPerHop, hpace], haccount.next hold hok⟩
  | exchange _ _ ih => exact ih hforward hroutable

end Courses

/-- A packet for the second of two nodes. -/
def single : Packet :=
  { flow := 3, source := 0, size := 1, payload := ⟨3, [4]⟩, path := .direct 0 1 }

end CoreArray.Network
