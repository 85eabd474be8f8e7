import Mathlib.Data.List.Nodup
import CoreArray.Proofs.Datapath.Refusals
set_option autoImplicit false

/-!
# Receives (SPEC §4.4)

Packets arrive at the back of a queue that all flows share, and a receive takes the first
packet of its flow out of the middle.  Over any history of packets that arrive and of
instructions that are executed, the queue is what has arrived without what was taken, in the
order of arrival, and each flow by itself is a queue: its packets are taken in the order in
which they arrived.  A receive has to wait exactly while no packet of its flow is there, and
it gives its tensor, and no other, the shape that its packet brings.

`receives_first_in_first_out` says all this of every history.
-/

namespace CoreArray

/-! ## Packets by their places -/

/-- The packets that are left, in order, when those at some places are taken away. -/
def withoutPlaces (packets : List Packet) (places : List Nat) : List Packet :=
  (packets.zipIdx.filter fun entry => entry.2 ∉ places).map Prod.fst

theorem withoutPlaces_nil (packets : List Packet) : withoutPlaces packets [] = packets := by
  unfold withoutPlaces
  rw [List.filter_eq_self.mpr (by simp), List.zipIdx_map_fst]

/-- A packet behind all places that are taken away stays. -/
theorem withoutPlaces_append {packets : List Packet} {places : List Nat}
    (h : ∀ place ∈ places, place < packets.length) (packet : Packet) :
    withoutPlaces (packets ++ [packet]) places = withoutPlaces packets places ++ [packet] := by
  have hstays : packets.length ∉ places := fun hmem => Nat.lt_irrefl _ (h _ hmem)
  unfold withoutPlaces
  rw [List.zipIdx_append, List.filter_append, List.map_append, Nat.zero_add]
  simp [hstays]

/-- The first packet of some kind that is left has a place, and without this place too the
others are left. -/
theorem withoutPlaces_eraseP {packets : List Packet} {places : List Nat} {p : Packet → Bool}
    {packet : Packet} (h : (withoutPlaces packets places).find? p = some packet) :
    ∃ place, place ∉ places ∧ packets[place]? = some packet ∧
      withoutPlaces packets (places ++ [place]) = (withoutPlaces packets places).eraseP p := by
  unfold withoutPlaces at h ⊢
  rw [List.find?_map] at h
  obtain ⟨⟨found, place⟩, hfind, rfl⟩ := Option.map_eq_some_iff.mp h
  have hkept := List.mem_filter.mp (List.mem_of_find?_eq_some hfind)
  obtain ⟨before, after, hsplit, -, -, herase⟩ := exists_eraseP hfind
  -- No two entries have one place, so taking the place away takes one entry away.
  have hplaces : ((before ++ (found, place) :: after).map Prod.snd).Nodup := by
    rw [← hsplit]
    refine List.Nodup.sublist (List.filter_sublist.map _) ?_
    rw [List.zipIdx_map_snd]
    exact List.nodup_range'
  rw [List.map_append, List.map_cons, List.nodup_middle, List.nodup_cons, ← List.map_append]
    at hplaces
  have hothers : ∀ entry ∈ before ++ after, decide (entry.2 ≠ place) = true := by
    intro entry hmem
    exact decide_eq_true fun heq => hplaces.1 (List.mem_map.mpr ⟨entry, hmem, heq⟩)
  refine ⟨place, by simpa using hkept.2, List.mem_zipIdx_iff_getElem?.mp hkept.1, ?_⟩
  rw [List.eraseP_map, herase]
  congr 1
  calc packets.zipIdx.filter (fun entry => entry.2 ∉ places ++ [place])
      = (packets.zipIdx.filter fun entry => entry.2 ∉ places).filter
          (fun entry => entry.2 ≠ place) := by
        rw [List.filter_filter]
        refine List.filter_congr fun entry _ => ?_
        simp [Bool.and_comm]
    _ = before ++ after := by
        rw [hsplit, List.filter_append, List.filter_cons_of_neg (by simp), ← List.filter_append]
        exact List.filter_eq_self.mpr hothers

namespace Datapath

/-! ## Histories -/

/-- The datapath with one more packet that has arrived. -/
def withArrival (path : Datapath) (packet : Packet) : Datapath :=
  { path with port := Network.arrive packet path.port }

/-- A receive that has taken a packet: the flow that it asks for, and the datapath before and
after. -/
structure Receipt where
  flow : TensorId
  before : Datapath
  after : Datapath

/-- The receipt of an execution, if that is a receive and takes a packet. -/
def receiptsOf (path : Datapath) (unit : UnitName) (instr : Instruction) (e : Execution) :
    List Receipt :=
  if unit = .ni ∧ instr.opcode = "recv" ∧ isTaken e.reply = true then
    (instr.operands[0]?).toList.map fun flow => ⟨flow, path, e.path⟩
  else []

/-- The histories of a datapath: the packets that have arrived, the receipts, both in order,
and the datapath now.  Packets arrive at any time, and any instruction is executed at any
time, on any unit, at any cycle and under any credit. -/
inductive History (spec : CoreSpec) : List Packet → List Receipt → Datapath → Prop
  /-- A history starts with what has arrived already. -/
  | start (path : Datapath) : History spec path.port.inbound [] path
  | arrive {arrived : List Packet} {receipts : List Receipt} {path : Datapath}
      (h : History spec arrived receipts path) (packet : Packet) :
      History spec (arrived ++ [packet]) receipts (path.withArrival packet)
  | execute {arrived : List Packet} {receipts : List Receipt} {path : Datapath}
      (h : History spec arrived receipts path) (watch : Watch) (credits : CreditBoard)
      (unit : UnitName) (instr : Instruction) (cycle : Cycle) :
      History spec arrived
        (receipts ++
          receiptsOf path unit instr (path.run watch spec credits unit instr cycle))
        (path.run watch spec credits unit instr cycle).path

/-- A packet that a receive has taken, and its place among those that arrived. -/
structure Taking where
  receipt : Receipt
  packet : Packet
  place : Nat

/-- A receive takes the first packet of its flow that is queued, which arrived at its place;
the tensor of the flow gets the shape of the packet, and no other tensor changes. -/
structure Taking.Fits (arrived : List Packet) (taking : Taking) : Prop where
  arrived : arrived[taking.place]? = some taking.packet
  first : (taking.receipt.before.port.inbound.find? fun packet =>
    packet.flow == taking.receipt.flow) = some taking.packet
  shapes : ∀ id, taking.receipt.after.tensors.dims? id =
    if id = taking.receipt.flow then some taking.packet.payload.dims
    else taking.receipt.before.tensors.dims? id

/-- The packets that arrived are taken by the receipts, in their order, or still queued. -/
structure TakenInOrder (arrived : List Packet) (receipts : List Receipt) (queue : List Packet)
    (takings : List Taking) : Prop where
  account : takings.map Taking.receipt = receipts
  /-- No packet is taken twice. -/
  distinct : (takings.map Taking.place).Nodup
  fits : ∀ taking ∈ takings, taking.Fits arrived
  /-- The queue keeps the order of arrival. -/
  left : queue = withoutPlaces arrived (takings.map Taking.place)
  /-- Each flow by itself is taken from the front. -/
  flows : ∀ flow, (arrived.filter fun packet => packet.flow == flow) =
    ((takings.filter fun taking => taking.receipt.flow == flow).map Taking.packet) ++
      queue.filter fun packet => packet.flow == flow

namespace TakenInOrder

variable {arrived queue : List Packet} {receipts : List Receipt} {takings : List Taking}

theorem start (queue : List Packet) : TakenInOrder queue [] queue [] where
  account := rfl
  distinct := List.nodup_nil
  fits := by simp
  left := (withoutPlaces_nil queue).symm
  flows := fun _ => rfl

theorem place_lt (h : TakenInOrder arrived receipts queue takings) :
    ∀ place ∈ takings.map Taking.place, place < arrived.length := by
  intro place hmem
  obtain ⟨taking, htaking, rfl⟩ := List.mem_map.mp hmem
  exact (List.getElem?_eq_some_iff.mp (h.fits taking htaking).arrived).1

/-- A packet that arrives is queued behind the others. -/
theorem arrive (h : TakenInOrder arrived receipts queue takings) (packet : Packet) :
    TakenInOrder (arrived ++ [packet]) receipts (queue ++ [packet]) takings where
  account := h.account
  distinct := h.distinct
  fits := by
    intro taking hmem
    obtain ⟨harrived, hfirst, hshapes⟩ := h.fits taking hmem
    have hlt := (List.getElem?_eq_some_iff.mp harrived).1
    exact ⟨by rw [List.getElem?_append_left hlt, harrived], hfirst, hshapes⟩
  left := by rw [withoutPlaces_append h.place_lt, ← h.left]
  flows := by
    intro flow
    rw [List.filter_append, List.filter_append, h.flows flow, List.append_assoc]

/-- A receive takes the first packet of its flow. -/
theorem take {path : Datapath} (h : TakenInOrder arrived receipts path.port.inbound takings)
    {flow : TensorId} {packet : Packet}
    (hfind : (path.port.inbound.find? fun packet => packet.flow == flow) = some packet) :
    ∃ place, TakenInOrder arrived (receipts ++ [⟨flow, path, path.accept flow packet⟩])
      (path.accept flow packet).port.inbound
      (takings ++ [⟨⟨flow, path, path.accept flow packet⟩, packet, place⟩]) := by
  have hleft : (path.accept flow packet).port.inbound =
      path.port.inbound.eraseP fun packet => packet.flow == flow := rfl
  obtain ⟨place, hnew, hplace, hwithout⟩ := withoutPlaces_eraseP (h.left ▸ hfind)
  refine ⟨place, ?account, ?distinct, ?fits, ?left, ?flows⟩
  case account => rw [List.map_append, h.account, List.map_singleton]
  case distinct =>
    rw [List.map_append, List.map_singleton, List.nodup_append_comm, List.singleton_append,
      List.nodup_cons]
    exact ⟨hnew, h.distinct⟩
  case fits =>
    intro taking hmem
    rcases List.mem_append.mp hmem with hearlier | hlast
    · exact h.fits taking hearlier
    · rw [List.mem_singleton] at hlast
      subst hlast
      refine ⟨hplace, hfind, fun id => ?_⟩
      dsimp only [accept]
      rw [TensorTable.dims?_insert]
      simp only [eq_comm]
  case left => rw [hleft, List.map_append, List.map_singleton, hwithout, ← h.left]
  case flows =>
    intro other
    rw [h.flows other, hleft, filter_flow_eraseP hfind other, List.filter_append,
      List.map_append, List.append_assoc]
    by_cases hsame : flow = other
    · simp [hsame]
    · simp [hsame]

end TakenInOrder

/-! ## Receives and other executions -/

/-- An execution takes the first packet of a flow and has a receipt for it, or it takes none
and has none. -/
theorem RunCase.receipt {spec : CoreSpec} {credits : CreditBoard} {path : Datapath}
    {unit : UnitName} {instr : Instruction} {cycle : Cycle} {e : Execution}
    (h : path.RunCase spec credits unit instr cycle e) :
    (receiptsOf path unit instr e = [] ∧ e.path.port.inbound = path.port.inbound) ∨
      ∃ flow packet, receiptsOf path unit instr e = [⟨flow, path, path.accept flow packet⟩] ∧
        (path.port.inbound.find? fun packet => packet.flow == flow) = some packet ∧
        e.path = path.accept flow packet := by
  unfold receiptsOf
  cases h with
  | refused fault hreply hpath _ => exact .inl ⟨by simp [hreply], by rw [hpath]⟩
  | waited _ hreply hpath _ => exact .inl ⟨by simp [hreply], by rw [hpath]⟩
  | worked hunit doneAt _ hport _ => exact .inl ⟨by simp [hunit], by rw [hport]⟩
  | kept _ hopcode _ _ _ _ _ hpath _ => exact .inl ⟨by simp [hopcode], by rw [hpath]⟩
  | sent _ hopcode _ _ _ _ _ _ _ _ _ hpath _ =>
      exact .inl ⟨by simp [hopcode], by rw [hpath]; rfl⟩
  | received hunit hopcode flow hid packet hfind hreply hpath _ =>
      refine .inr ⟨flow, packet, ?_, hfind, hpath⟩
      simp [hunit, hopcode, hreply, hid, hpath]

/-- Receives are first in, first out, flow by flow: after every history, what has arrived was
taken in order or is still queued, and the next receive has to wait exactly if its flow has no
packet in the queue. -/
theorem receives_first_in_first_out {spec : CoreSpec} {arrived : List Packet}
    {receipts : List Receipt} {path : Datapath} (h : History spec arrived receipts path) :
    (∃ takings, TakenInOrder arrived receipts path.port.inbound takings) ∧
      ∀ (watch : Watch) (credits : CreditBoard) (instr : Instruction) (flow : TensorId)
        (cycle : Cycle), spec.node < credits.size → instr.opcode = "recv" →
        instr.operands[0]? = some flow →
        (path.run watch spec credits .ni instr cycle).reply =
          if ∃ packet ∈ path.port.inbound, packet.flow = flow then .ok (.complete (cycle + 1))
          else .ok .notYet := by
  refine ⟨?_, fun _ _ _ _ _ hnode hopcode hflow => reply_recv hnode hopcode hflow⟩
  induction h with
  | start path => exact ⟨[], .start _⟩
  | arrive h packet ih =>
      obtain ⟨takings, hinv⟩ := ih
      exact ⟨takings, hinv.arrive packet⟩
  | @execute arrived receipts path h watch credits unit instr cycle ih =>
      obtain ⟨takings, hinv⟩ := ih
      rcases (path.run_case watch spec credits instr cycle unit).receipt with
        ⟨hnone, hqueue⟩ | ⟨flow, packet, hreceipt, hfind, hpath⟩
      · rw [hnone, hqueue, List.append_nil]
        exact ⟨takings, hinv⟩
      · rw [hreceipt, hpath]
        obtain ⟨place, htake⟩ := hinv.take hfind
        exact ⟨_, htake⟩

/-- A packet of a flow, its tensor of some length. -/
def flowPacket (flow : TensorId) (length : Nat) : Packet :=
  { (default : Packet) with flow, payload := ⟨flow, [length]⟩ }

/-- What comes of a receive of a flow on a core that has a network for itself. -/
def recvOf (path : Datapath) (flow : TensorId) (cycle : Cycle) : Execution :=
  path.run .silent default (.allOpened 1) .ni (.plain "NI" "recv" [flow]) cycle

/-- Packets of two flows have arrived. -/
def twoArrived : Datapath :=
  ((Datapath.ofTensors .empty).withArrival (flowPacket 3 4)).withArrival (flowPacket 5 6)

/-- The one behind is taken, and then another of the first flow arrives. -/
def lastTaken : Datapath := (twoArrived.recvOf 5 1).path.withArrival (flowPacket 3 8)

/-- The first flow is asked for. -/
def oneLeft : Datapath := (lastTaken.recvOf 3 2).path

/-- The two receipts. -/
def twoReceipts : List Receipt :=
  receiptsOf twoArrived .ni (.plain "NI" "recv" [5]) (twoArrived.recvOf 5 1) ++
    receiptsOf lastTaken .ni (.plain "NI" "recv" [3]) (lastTaken.recvOf 3 2)

/-- Its second packet is left, and the other flow has to wait. -/
theorem receipts_in_order_of_flow :
    (∃ takings, TakenInOrder [flowPacket 3 4, flowPacket 5 6, flowPacket 3 8] twoReceipts
        oneLeft.port.inbound takings) ∧
      twoReceipts.length = 2 ∧ oneLeft.port.inbound = [flowPacket 3 8] ∧
      (oneLeft.recvOf 5 3).reply = .ok .notYet := by
  have htwo : History default [flowPacket 3 4, flowPacket 5 6] [] twoArrived :=
    ((History.start (Datapath.ofTensors .empty)).arrive (flowPacket 3 4)).arrive (flowPacket 5 6)
  have hlast : History default [flowPacket 3 4, flowPacket 5 6, flowPacket 3 8] _ lastTaken :=
    (htwo.execute .silent (.allOpened 1) .ni (.plain "NI" "recv" [5]) 1).arrive (flowPacket 3 8)
  have hleft : History default [flowPacket 3 4, flowPacket 5 6, flowPacket 3 8] twoReceipts
      oneLeft :=
    hlast.execute .silent (.allOpened 1) .ni (.plain "NI" "recv" [3]) 2
  obtain ⟨htaken, hreply⟩ := receives_first_in_first_out hleft
  refine ⟨htaken, by decide +kernel, by decide +kernel, ?_⟩
  have hwaits := hreply .silent (.allOpened 1) (.plain "NI" "recv" [5]) 5 3 (by decide) rfl rfl
  rw [if_neg (by decide +kernel)] at hwaits
  exact hwaits

end Datapath

end CoreArray
