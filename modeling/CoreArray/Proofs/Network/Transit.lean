import CoreArray.Network
set_option autoImplicit false

/-!
# What moving packets does (SPEC §10.9)

At the end of a cycle the network delivers the copies that are due and takes up
the packets that wait.  The lemmas here say what becomes of the queues of the
ports and of the copies in flight: copies arrive behind what has arrived
before, packets leave as one copy per destination, and nothing else happens.

The network keeps its copies in a table.  In the list `Network.flights` of this table a copy
that is put in takes its place behind those that are not due later (`flights_put`): its number
is larger than theirs and new, so that it takes the place of none.
-/

namespace CoreArray

/-- A port of which all waiting packets are taken. -/
def Port.drained (port : Port) : Port := { port with outbound := [] }

namespace Network

/-- The packets of the copies for a node, in their order. -/
def packetsFor (node : Node) (flights : List Flight) : List Packet :=
  (flights.filter fun flight => flight.dest == node).map Flight.packet

/-- The copy of a packet for a destination that is put in at a cycle. -/
def copyOf (network : Network) (cycle : Cycle) (packet : Packet) (dest : Node) : Flight :=
  ⟨network.dueAt cycle packet ((packet.path.hopsTo dest).getD 0), dest, packet⟩

/-- The copies of a packet that is put in at a cycle. -/
def copiesOf (network : Network) (cycle : Cycle) (packet : Packet) : List Flight :=
  packet.dests.toList.map (network.copyOf cycle packet)

/-- Put a copy behind those that are not due later. -/
def launch (flight : Flight) : List Flight → List Flight
  | [] => [flight]
  | first :: rest =>
      if first.due ≤ flight.due then first :: launch flight rest else flight :: first :: rest

/-- Put copies into the network, one after the other. -/
def launchAll (copies flights : List Flight) : List Flight :=
  copies.foldl (fun flights copy => launch copy flights) flights

/-- Let copies arrive, one after the other. -/
def arriveAll (ports : List Port) (flights : List Flight) : List Port :=
  flights.foldl (fun ports flight => ports.modify flight.dest (arrive flight.packet)) ports

/-! ## The table of copies -/

/-- Whether entries stand in the order of their keys. -/
def IsSorted (entries : List (FlightKey × Node × Packet)) : Prop :=
  entries.Pairwise fun earlier later => compare earlier.1 later.1 = .lt

theorem isSorted_toList (copies : FlightTable) : IsSorted copies.toList :=
  Std.ExtTreeMap.ordered_keys_toList

theorem IsSorted.nodup {entries : List (FlightKey × Node × Packet)} (h : IsSorted entries) :
    entries.Nodup := by
  refine h.imp ?_
  rintro entry other hlt rfl
  simp at hlt

/-- Entries in the order of their keys are the list of the table in which they are found. -/
theorem toList_eq_of_isSorted {copies : FlightTable} {entries : List (FlightKey × Node × Packet)}
    (hsorted : IsSorted entries)
    (hmem : ∀ key value, (key, value) ∈ entries ↔ copies[key]? = some value) :
    copies.toList = entries := by
  have htable := isSorted_toList copies
  refine List.Perm.eq_of_pairwise ?_ htable hsorted
    ((List.perm_ext_iff_of_nodup htable.nodup hsorted.nodup).mpr ?_)
  · intro entry other _ _ hlt hgt
    exact absurd hgt (Std.OrientedCmp.not_lt_of_lt hlt)
  · rintro ⟨key, value⟩
    rw [Std.ExtTreeMap.mem_toList_iff_getElem?_eq_some, hmem]

section Table

variable {network : Network}

/-- The next copy that is taken out leaves the others in their order. -/
theorem toList_take {key : FlightKey} {value : Node × Packet}
    {rest : List (FlightKey × Node × Packet)} (h : network.copies.toList = (key, value) :: rest) :
    (network.take key).copies.toList = rest := by
  have hsorted := isSorted_toList network.copies
  rw [h] at hsorted
  obtain ⟨hfirst, hrest⟩ := List.pairwise_cons.mp hsorted
  refine toList_eq_of_isSorted hrest fun other found => ?_
  have hold : network.copies[other]? = some found ↔ (other, found) ∈ (key, value) :: rest := by
    rw [← h, Std.ExtTreeMap.mem_toList_iff_getElem?_eq_some]
  unfold take
  rw [Std.ExtTreeMap.getElem?_erase]
  by_cases heq : compare key other = .eq
  · rw [if_pos heq]
    refine iff_of_false (fun hmem => ?_) (by simp)
    have hlt := hfirst _ hmem
    rw [heq] at hlt
    simp at hlt
  · rw [if_neg heq, hold, List.mem_cons, Prod.mk.injEq, or_iff_right]
    rintro ⟨rfl, -⟩
    exact heq Std.ReflCmp.compare_self

/-- A copy takes its place between those that are not due later and those that are. -/
theorem launch_append {flight : Flight} {before after : List Flight}
    (hbefore : ∀ other ∈ before, other.due ≤ flight.due)
    (hafter : ∀ other ∈ after, flight.due < other.due) :
    launch flight (before ++ after) = before ++ flight :: after := by
  induction before with
  | nil =>
      cases after with
      | nil => rfl
      | cons first rest =>
          exact if_neg (Nat.not_le_of_lt (hafter first List.mem_cons_self))
  | cons first before ih =>
      have hfirst : first.due ≤ flight.due := hbefore first List.mem_cons_self
      have hrest := ih fun other hmem => hbefore other (List.mem_cons_of_mem first hmem)
      rw [List.cons_append, List.cons_append, ← hrest]
      exact if_pos hfirst

/-- The entries of a table before and after a cycle. -/
theorem exists_split_toList (copies : FlightTable) (due : Cycle) :
    ∃ before after, copies.toList = before ++ after ∧ (∀ entry ∈ before, entry.1.due ≤ due) ∧
      ∀ entry ∈ after, due < entry.1.due := by
  have hsorted := isSorted_toList copies
  generalize copies.toList = entries at hsorted
  induction entries with
  | nil => exact ⟨[], [], rfl, by simp, by simp⟩
  | cons entry entries ih =>
      obtain ⟨hfirst, hrest⟩ := List.pairwise_cons.mp hsorted
      by_cases hdue : entry.1.due ≤ due
      · obtain ⟨before, after, rfl, hbefore, hafter⟩ := ih hrest
        exact ⟨entry :: before, after, rfl, by simpa [hdue] using hbefore, hafter⟩
      · refine ⟨[], entry :: entries, rfl, by simp, ?_⟩
        intro other hmem
        rcases List.mem_cons.mp hmem with rfl | hmem
        · exact Nat.lt_of_not_le hdue
        · rcases FlightKey.compare_eq_lt_iff.mp (hfirst other hmem) with hlt | ⟨heq, -⟩
          · exact Nat.lt_trans (Nat.lt_of_not_le hdue) hlt
          · rw [← heq]
            exact Nat.lt_of_not_le hdue

/-- A copy that is put in is found under a new key, between the copies that are not due later
and those that are. -/
theorem toList_put {flight : Flight} {before after : List (FlightKey × Node × Packet)}
    (hsplit : network.copies.toList = before ++ after)
    (hbefore : ∀ entry ∈ before, entry.1.due ≤ flight.due)
    (hafter : ∀ entry ∈ after, flight.due < entry.1.due) :
    (network.put flight).copies.toList =
      before ++ (⟨flight.due, network.nextSeq⟩, flight.dest, flight.packet) :: after := by
  have hsorted := isSorted_toList network.copies
  rw [hsplit] at hsorted
  obtain ⟨hfirst, hrest, hacross⟩ := List.pairwise_append.mp hsorted
  have hfound {key : FlightKey} {value : Node × Packet} :
      network.copies[key]? = some value ↔ (key, value) ∈ before ++ after := by
    rw [← hsplit, Std.ExtTreeMap.mem_toList_iff_getElem?_eq_some]
  have hseq {entry : FlightKey × Node × Packet} (hmem : entry ∈ before ++ after) :
      entry.1.seq < network.nextSeq := by
    refine network.fresh entry.1 (Std.ExtTreeMap.mem_iff_isSome_getElem?.mpr ?_)
    rw [hfound.mpr hmem]
    rfl
  have hplaced : IsSorted
      (before ++ (⟨flight.due, network.nextSeq⟩, flight.dest, flight.packet) :: after) := by
    refine List.pairwise_append.mpr ⟨hfirst, List.pairwise_cons.mpr ⟨?_, hrest⟩, ?_⟩
    · intro entry hmem
      exact FlightKey.compare_eq_lt_iff.mpr (.inl (hafter entry hmem))
    · intro entry hmem other hother
      rcases List.mem_cons.mp hother with rfl | hother
      · have hnumber := hseq (List.mem_append_left after hmem)
        exact FlightKey.compare_eq_lt_iff.mpr
          ((Nat.lt_or_eq_of_le (hbefore entry hmem)).imp_right fun heq => ⟨heq, hnumber⟩)
      · exact hacross entry hmem other hother
  refine toList_eq_of_isSorted hplaced fun key value => ?_
  unfold put
  rw [Std.ExtTreeMap.getElem?_insert]
  by_cases heq : compare (⟨flight.due, network.nextSeq⟩ : FlightKey) key = .eq
  · obtain rfl := Std.compare_eq_iff_eq.mp heq
    have hnew : (⟨⟨flight.due, network.nextSeq⟩, value⟩ : FlightKey × Node × Packet) ∉
        before ++ after := fun hmem => absurd (hseq hmem) (Nat.lt_irrefl _)
    rw [if_pos heq, Option.some.injEq, List.mem_append, List.mem_cons, or_left_comm,
      ← List.mem_append, or_iff_left hnew, Prod.mk.injEq, eq_self, true_and, eq_comm]
  · have hother : key ≠ ⟨flight.due, network.nextSeq⟩ := fun hkey =>
      heq (Std.compare_eq_iff_eq.mpr hkey.symm)
    rw [if_neg heq, hfound, List.mem_append, List.mem_append, List.mem_cons, Prod.mk.injEq]
    simp [hother]

/-- A copy that is put in takes the place of none: it comes behind those that are not due
later. -/
theorem flights_put (network : Network) (flight : Flight) :
    (network.put flight).flights = launch flight network.flights := by
  obtain ⟨before, after, hsplit, hbefore, hafter⟩ :=
    exists_split_toList network.copies flight.due
  unfold flights
  rw [toList_put hsplit hbefore hafter, hsplit, List.map_append, List.map_append, List.map_cons]
  refine (launch_append ?_ ?_).symm
  · exact List.forall_mem_map.mpr hbefore
  · exact List.forall_mem_map.mpr hafter

theorem inFlight_eq_length (network : Network) : network.inFlight = network.flights.length := by
  unfold inFlight flights
  rw [List.length_map, Std.ExtTreeMap.length_toList]

theorem flights_empty (id : EntityId) (cyclesPerHop : Nat) :
    (Network.empty id cyclesPerHop).flights = [] := by
  rfl

end Table

/-- Whether a network is another one of which only copies have been moved, and these are in
flight. -/
structure Follows (network before : Network) (flights : List Flight) : Prop where
  id : network.id = before.id
  cyclesPerHop : network.cyclesPerHop = before.cyclesPerHop
  flights : network.flights = flights

theorem Follows.refl (network : Network) : network.Follows network network.flights :=
  ⟨rfl, rfl, rfl⟩

theorem Follows.trans {network between before : Network} {flights others : List Flight}
    (h : network.Follows between flights) (hbefore : between.Follows before others) :
    network.Follows before flights :=
  ⟨h.id.trans hbefore.id, h.cyclesPerHop.trans hbefore.cyclesPerHop, h.flights⟩

/-- The copies that are made depend on the pace of the network only. -/
theorem copyOf_congr {network before : Network} (h : network.cyclesPerHop = before.cyclesPerHop) :
    network.copyOf = before.copyOf := by
  unfold copyOf dueAt
  rw [h]

theorem copiesOf_congr {network before : Network}
    (h : network.cyclesPerHop = before.cyclesPerHop) : network.copiesOf = before.copiesOf := by
  unfold copiesOf
  rw [copyOf_congr h]

/-! ## Arrivals -/

theorem packetsFor_append (node : Node) (flights others : List Flight) :
    packetsFor node (flights ++ others) = packetsFor node flights ++ packetsFor node others := by
  unfold packetsFor
  rw [List.filter_append, List.map_append]

theorem packetsFor_eq_nil {node : Node} {flights : List Flight}
    (h : ∀ flight ∈ flights, flight.dest ≠ node) : packetsFor node flights = [] := by
  unfold packetsFor
  rw [List.filter_eq_nil_iff.mpr fun flight hmem => by simpa using h flight hmem]
  rfl

/-- Every port gets the packets of the copies for its node behind those it has. -/
theorem getElem?_arriveAll (ports : List Port) (flights : List Flight) (node : Node) :
    (arriveAll ports flights)[node]? = ports[node]?.map fun port =>
      { port with inbound := port.inbound ++ packetsFor node flights } := by
  induction flights generalizing ports with
  | nil =>
      cases hport : ports[node]? with
      | none => simp [arriveAll, hport]
      | some port => simp [arriveAll, packetsFor, hport]
  | cons flight flights ih =>
      have hstep : arriveAll ports (flight :: flights) =
          arriveAll (ports.modify flight.dest (arrive flight.packet)) flights := rfl
      rw [hstep, ih, List.getElem?_modify]
      cases hport : ports[node]? with
      | none => simp
      | some port =>
          by_cases hdest : flight.dest = node
          · simp [hdest, packetsFor, arrive]
          · simp [hdest, packetsFor]

@[simp] theorem length_arriveAll (ports : List Port) (flights : List Flight) :
    (arriveAll ports flights).length = ports.length := by
  induction flights generalizing ports with
  | nil => rfl
  | cons flight flights ih => exact (ih _).trans (List.length_modify _ _ _)

/-- Arrivals leave alone what waits to be sent. -/
theorem outbound_arriveAll (ports : List Port) (flights : List Flight) :
    (arriveAll ports flights).map Port.outbound = ports.map Port.outbound := by
  apply List.ext_getElem?
  intro node
  rw [List.getElem?_map, List.getElem?_map, getElem?_arriveAll]
  cases ports[node]? <;> rfl

/-! ## Delivery -/

section Delivery

variable {watch : Watch} {network : Network} {cycle : Cycle} {ports : List Port}

/-- What a delivery that succeeds does: the copies that are due arrive, and the
others stay in flight. -/
structure Delivery (network : Network) (cycle : Cycle) (ports : List Port)
    (delivered rest : List Flight) (transit : Transit) : Prop where
  due : ∀ flight ∈ delivered, flight.due ≤ cycle ∧ flight.dest < ports.length
  early : ∀ flight ∈ rest.head?, cycle < flight.due
  still : delivered = [] → transit.network = network
  network : transit.network.Follows network rest
  ports : transit.ports = arriveAll ports delivered

theorem modify_arrive {dest : Node} {port : Port} {packet : Packet}
    (h : ports[dest]? = some port) :
    ports.set dest (arrive packet port) = ports.modify dest (arrive packet) := by
  apply List.ext_getElem?
  intro node
  rw [List.getElem?_set, List.getElem?_modify]
  by_cases hdest : dest = node
  · subst hdest
    obtain ⟨hlt, hget⟩ := List.getElem?_eq_some_iff.mp h
    simp [hlt, hget]
  · simp [hdest]

/-- Whatever comes of a delivery, copies have only arrived. -/
theorem deliverFrom_ports (watch : Watch) (network : Network) (cycle : Cycle)
    (ports : List Port) (entries : List (FlightKey × Node × Packet)) :
    ∃ delivered, delivered <+: entries.map flightOf ∧
      (deliverFrom watch network cycle ports entries).ports = arriveAll ports delivered := by
  induction entries generalizing network ports with
  | nil => exact ⟨[], List.prefix_refl _, rfl⟩
  | cons entry rest ih =>
      obtain ⟨key, dest, packet⟩ := entry
      unfold deliverFrom
      split
      · exact ⟨[], List.nil_prefix, rfl⟩
      · cases hport : ports[dest]? with
        | none => exact ⟨[], List.nil_prefix, rfl⟩
        | some port =>
            dsimp only
            rw [modify_arrive hport]
            obtain ⟨delivered, hprefix, hdelivered⟩ :=
              ih (network.take key) (ports.modify dest (arrive packet))
            exact ⟨flightOf (key, dest, packet) :: delivered,
              (List.prefix_cons_inj _).mpr hprefix, hdelivered⟩

theorem deliverFrom_ok {entries : List (FlightKey × Node × Packet)}
    (hentries : network.copies.toList = entries)
    (h : (deliverFrom watch network cycle ports entries).result = .ok ()) :
    ∃ delivered rest, entries.map flightOf = delivered ++ rest ∧
      Delivery network cycle ports delivered rest
        (deliverFrom watch network cycle ports entries) := by
  have hflights : network.flights = entries.map flightOf := by
    unfold flights
    rw [hentries]
  induction entries generalizing network ports with
  | nil => exact ⟨[], [], rfl, by simp, by simp, fun _ => rfl, ⟨rfl, rfl, hflights⟩, rfl⟩
  | cons entry rest ih =>
      obtain ⟨key, dest, packet⟩ := entry
      unfold deliverFrom at h ⊢
      split
      · next hearly =>
          exact ⟨[], _, rfl, by simp, by simpa [flightOf] using hearly, fun _ => rfl,
            ⟨rfl, rfl, hflights⟩, rfl⟩
      · next hdue =>
          rw [if_neg hdue] at h
          cases hport : ports[dest]? with
          | none => rw [hport] at h; simp at h
          | some port =>
              have htaken := toList_take hentries
              rw [hport] at h
              dsimp only at h ⊢
              rw [modify_arrive hport] at h ⊢
              obtain ⟨hlt, -⟩ := List.getElem?_eq_some_iff.mp hport
              obtain ⟨delivered, late, hsplit, hd, hearly, -, hnetwork, hports⟩ :=
                ih htaken h (by unfold flights; rw [htaken])
              refine ⟨flightOf (key, dest, packet) :: delivered, late, ?_, ?_, hearly, by simp,
                ⟨hnetwork.id, hnetwork.cyclesPerHop, hnetwork.flights⟩, hports⟩
              · rw [List.map_cons, hsplit, List.cons_append]
              · intro other hmem
                rcases List.mem_cons.mp hmem with rfl | hmem
                · exact ⟨Nat.le_of_not_lt hdue, hlt⟩
                · have hother := hd other hmem
                  rw [List.length_modify] at hother
                  exact hother

end Delivery

/-! ## Injection -/

section Injection

variable {watch : Watch} {network : Network} {cycle : Cycle}

/-- A copy takes its place among those in flight. -/
theorem launch_perm (flight : Flight) (flights : List Flight) :
    (launch flight flights).Perm (flight :: flights) := by
  induction flights with
  | nil => exact List.Perm.refl _
  | cons first rest ih =>
      unfold launch
      split
      · exact (ih.cons first).trans (List.Perm.swap flight first rest)
      · exact List.Perm.refl _

/-- Copies take their places among those in flight. -/
theorem launchAll_perm (copies flights : List Flight) :
    (launchAll copies flights).Perm (copies ++ flights) := by
  induction copies generalizing flights with
  | nil => exact List.Perm.refl _
  | cons copy copies ih =>
      exact (ih _).trans (((launch_perm copy flights).append_left copies).trans List.perm_middle)

theorem launchAll_append (copies others flights : List Flight) :
    launchAll (copies ++ others) flights = launchAll others (launchAll copies flights) :=
  List.foldl_append

theorem injectCopies_ok {packet : Packet} {dests : List Node}
    (h : (injectCopies watch cycle packet network dests).result = .ok ()) :
    (injectCopies watch cycle packet network dests).network.Follows network
      (launchAll (dests.map (network.copyOf cycle packet)) network.flights) := by
  induction dests generalizing network with
  | nil => exact .refl network
  | cons dest dests ih =>
      unfold injectCopies injectCopy Injection.andThen at h ⊢
      cases hhops : packet.path.hopsTo dest with
      | none => rw [hhops] at h; simp at h
      | some hops =>
          rw [hhops] at h
          dsimp only at h ⊢
          have hcopy : (⟨network.dueAt cycle packet hops, dest, packet⟩ : Flight) =
              network.copyOf cycle packet dest := by
            unfold copyOf
            rw [hhops]
            rfl
          rw [hcopy] at h ⊢
          have hrest := ih h
          rw [flights_put] at hrest
          exact ⟨hrest.id, hrest.cyclesPerHop, hrest.flights⟩

theorem injectAll_ok {packets : List Packet}
    (h : (injectAll watch cycle network packets).result = .ok ()) :
    (injectAll watch cycle network packets).network.Follows network
      (launchAll (packets.flatMap (network.copiesOf cycle)) network.flights) := by
  induction packets generalizing network with
  | nil => exact .refl network
  | cons packet packets ih =>
      unfold injectAll Injection.andThen at h ⊢
      cases hfirst : (injectCopies watch cycle packet network packet.dests.toList).result with
      | error fault => rw [hfirst] at h; simp [hfirst] at h
      | ok done =>
          rw [hfirst] at h
          dsimp only at h ⊢
          have hcopies := injectCopies_ok hfirst
          have hrest := ih h
          rw [copiesOf_congr hcopies.cyclesPerHop, hcopies.flights] at hrest
          rw [List.flatMap_cons, launchAll_append]
          exact hrest.trans hcopies

end Injection

/-! ## Taking up -/

section Collection

variable {watch : Watch} {network : Network} {cycle : Cycle}

/-- The copies of all packets that wait at ports. -/
def waitingCopies (network : Network) (cycle : Cycle) (ports : List Port) : List Flight :=
  ports.flatMap fun port => port.outbound.flatMap (network.copiesOf cycle)

/-- Whatever comes of taking up packets, it changes no port but for the packets
that it takes. -/
theorem collect_ports (watch : Watch) (cycle : Cycle) (network : Network) (ports : List Port)
    (node : Node) :
    (collect watch cycle network ports).ports[node]? = ports[node]? ∨
      (collect watch cycle network ports).ports[node]? = ports[node]?.map Port.drained := by
  induction ports generalizing network node with
  | nil => exact .inl rfl
  | cons port ports ih =>
      unfold collect
      dsimp only
      cases (injectAll watch cycle network port.outbound).result with
      | error fault =>
          cases node with
          | zero => exact .inr rfl
          | succ node => exact .inl rfl
      | ok done =>
          cases node with
          | zero => exact .inr rfl
          | succ node => exact ih _ node

theorem waitingCopies_congr {network before : Network}
    (h : network.cyclesPerHop = before.cyclesPerHop) :
    network.waitingCopies = before.waitingCopies := by
  unfold waitingCopies
  rw [copiesOf_congr h]

theorem collect_ok {ports : List Port} (h : (collect watch cycle network ports).result = .ok ()) :
    (collect watch cycle network ports).ports = ports.map Port.drained ∧
      (collect watch cycle network ports).network.Follows network
        (launchAll (network.waitingCopies cycle ports) network.flights) := by
  induction ports generalizing network with
  | nil => exact ⟨rfl, .refl network⟩
  | cons port ports ih =>
      unfold collect at h ⊢
      dsimp only at h ⊢
      cases hfirst : (injectAll watch cycle network port.outbound).result with
      | error fault => rw [hfirst] at h; simp at h
      | ok done =>
          rw [hfirst] at h
          dsimp only at h ⊢
          have hpackets := injectAll_ok hfirst
          obtain ⟨hports, hrest⟩ := ih h
          rw [waitingCopies_congr hpackets.cyclesPerHop, hpackets.flights] at hrest
          rw [← launchAll_append] at hrest
          exact ⟨by rw [hports]; rfl, hrest.trans hpackets⟩

/-- Where no packet waits, nothing is taken up. -/
theorem collect_drained {ports : List Port} (h : ∀ port ∈ ports, port.outbound = []) :
    collect watch cycle network ports = ⟨network, ports, [], .ok ()⟩ := by
  induction ports with
  | nil => rfl
  | cons port ports ih =>
      have hport : port.outbound = [] := h port List.mem_cons_self
      have hrest := ih fun other hmem => h other (List.mem_cons_of_mem port hmem)
      obtain ⟨outbound, inbound⟩ := port
      dsimp only at hport
      subst hport
      unfold collect injectAll
      dsimp only
      rw [hrest]
      rfl

end Collection

/-! ## A step of the network -/

section Step

variable {watch : Watch} {network : Network} {cycle : Cycle} {ports : List Port}

/-- What a step of the network does that succeeds. -/
structure Move (network : Network) (cycle : Cycle) (ports : List Port)
    (delivered rest : List Flight) (transit : Transit) : Prop where
  split : network.flights = delivered ++ rest
  due : ∀ flight ∈ delivered, flight.due ≤ cycle ∧ flight.dest < ports.length
  early : ∀ flight ∈ rest.head?, cycle < flight.due
  /-- Where no packet waits, the other copies stay as they are. -/
  idle : (∀ port ∈ ports, port.outbound = []) → transit.network.Follows network rest
  /-- Where besides no copy is due, the network stays as it is. -/
  still : (∀ port ∈ ports, port.outbound = []) → delivered = [] → transit.network = network
  taken : ∃ flights, transit.network.Follows network flights ∧
    flights.Perm (network.waitingCopies cycle ports ++ rest)
  arrived : ∀ node, transit.ports[node]? = ports[node]?.map fun port =>
    (⟨[], port.inbound ++ packetsFor node delivered⟩ : Port)

theorem waitingCopies_eq (ports : List Port) :
    network.waitingCopies cycle ports =
      (ports.map Port.outbound).flatMap fun packets =>
        packets.flatMap (network.copiesOf cycle) := by
  unfold waitingCopies
  rw [List.flatMap_map]

/-- A step that succeeds moves packets; the copies of those that waited take their places
among the other copies in flight. -/
theorem step_ok (h : (network.step watch cycle ports).result = .ok ()) :
    ∃ delivered rest, Move network cycle ports delivered rest (network.step watch cycle ports) ∧
      (network.step watch cycle ports).network.Follows network
        (launchAll (network.waitingCopies cycle ports) rest) := by
  unfold step Transit.andThen at h ⊢
  cases hdeliver : (network.deliver watch cycle ports).result with
  | error fault => rw [hdeliver] at h; simp [hdeliver] at h
  | ok done =>
      rw [hdeliver] at h
      dsimp only at h ⊢
      obtain ⟨delivered, rest, hsplit, hdue, hearly, hstill, hnetwork, hports⟩ :=
        deliverFrom_ok rfl hdeliver
      obtain ⟨hdrained, htaken⟩ := collect_ok h
      unfold deliver at htaken hdrained ⊢
      have hwaiting : waitingCopies
          (deliverFrom watch network cycle ports network.copies.toList).network cycle
          (arriveAll ports delivered) = network.waitingCopies cycle ports := by
        rw [waitingCopies_congr hnetwork.cyclesPerHop, waitingCopies_eq, outbound_arriveAll]
        exact (waitingCopies_eq ports).symm
      rw [hports] at htaken hdrained ⊢
      rw [hwaiting, hnetwork.flights] at htaken
      have hfollows := htaken.trans hnetwork
      refine ⟨delivered, rest, ⟨hsplit, hdue, hearly, ?_, ?_, ⟨_, hfollows, launchAll_perm _ _⟩,
        ?_⟩, hfollows⟩
      · intro hempty
        have hnone : network.waitingCopies cycle ports = [] := by
          unfold waitingCopies
          refine List.flatMap_eq_nil_iff.mpr fun port hmem => ?_
          rw [hempty port hmem, List.flatMap_nil]
        rw [hnone] at hfollows
        exact hfollows
      · rintro hempty rfl
        have hsame : arriveAll ports [] = ports := rfl
        rw [hsame, collect_drained hempty]
        exact hstill rfl
      · intro node
        rw [hdrained, List.getElem?_map, getElem?_arriveAll, Option.map_map]
        rfl

/-- Whatever comes of a step of the network, packets have only arrived at a port
behind those that it has, and at most been taken. -/
theorem step_ports (watch : Watch) (network : Network) (cycle : Cycle) {node : Node} {port : Port}
    (h : ports[node]? = some port) :
    ∃ outbound delivered, delivered <+: network.flights ∧
      (network.step watch cycle ports).ports[node]? =
        some ⟨outbound, port.inbound ++ packetsFor node delivered⟩ ∧
      (outbound = port.outbound ∨ outbound = []) := by
  unfold step Transit.andThen
  obtain ⟨delivered, hprefix, hdelivered⟩ :=
    deliverFrom_ports watch network cycle ports network.copies.toList
  have hport := getElem?_arriveAll ports delivered node
  rw [← hdelivered, h] at hport
  unfold deliver
  cases (deliverFrom watch network cycle ports network.copies.toList).result with
  | error fault => exact ⟨_, delivered, hprefix, hport, .inl rfl⟩
  | ok done =>
      dsimp only
      rcases collect_ports watch cycle
        (deliverFrom watch network cycle ports network.copies.toList).network
        (deliverFrom watch network cycle ports network.copies.toList).ports node with hsame | htaken
      · exact ⟨_, delivered, hprefix, hsame.trans hport, .inl rfl⟩
      · exact ⟨_, delivered, hprefix, htaken.trans (congrArg _ hport), .inr rfl⟩

/-- Where nothing waits and nothing travels, nothing moves. -/
theorem step_idle (hflights : network.flights = []) (hports : ∀ port ∈ ports, port.outbound = []) :
    network.step watch cycle ports = ⟨network, ports, [], .ok ()⟩ := by
  have hcopies : network.copies.toList = [] := List.map_eq_nil_iff.mp hflights
  unfold step Transit.andThen deliver
  rw [hcopies]
  unfold deliverFrom
  dsimp only
  rw [collect_drained hports]
  rfl

theorem length_collect (network : Network) (ports : List Port) :
    (collect watch cycle network ports).ports.length = ports.length := by
  induction ports generalizing network with
  | nil => rfl
  | cons port ports ih =>
      unfold collect
      dsimp only
      cases (injectAll watch cycle network port.outbound).result with
      | error fault => rfl
      | ok done => exact congrArg Nat.succ (ih _)

/-- Ports neither come nor go. -/
theorem length_step : (network.step watch cycle ports).ports.length = ports.length := by
  unfold step Transit.andThen deliver
  obtain ⟨delivered, -, hdelivered⟩ :=
    deliverFrom_ports watch network cycle ports network.copies.toList
  have hlength : (deliverFrom watch network cycle ports network.copies.toList).ports.length =
      ports.length := by
    rw [hdelivered, length_arriveAll]
  cases (deliverFrom watch network cycle ports network.copies.toList).result with
  | error fault => exact hlength
  | ok done => exact (length_collect _ _).trans hlength

end Step

end Network

end CoreArray
