import CoreArray.Proofs.Core.Progress
import CoreArray.Proofs.Datapath.Packets
set_option autoImplicit false

/-!
# What a tick sends and receives (SPEC §4.4, §4.5)

A send or a receive is complete when its unit takes it up.  What such an
instruction asks for can be read off its text and off the core as it was: a send
asks for a copy of its tensor at each node that it names, its own apart, and a
receive for the first packet of its flow.  The lemmas here say that a tick brings
about just that: its packets make the copies that are asked for, and its arrived
packets lose the one that is received.
-/

namespace CoreArray

namespace Instruction

/-- Whether an instruction has the network interface do an operation on a tensor. -/
def isInterface (instr : Instruction) (opcode : String) (id : TensorId) : Bool :=
  UnitName.ofText? instr.unit == some .ni && instr.opcode == opcode &&
    instr.operands[0]? == some id

/-- Whether an instruction of a node sends a tensor to another node. -/
def sends (instr : Instruction) (own : Node) (flow : TensorId) (dest : Node) : Bool :=
  instr.isInterface "send" flow && (instr.operands.drop 1).contains (dest : Int) && dest != own

/-- Whether an instruction receives a tensor. -/
def receives (instr : Instruction) (flow : TensorId) : Bool := instr.isInterface "recv" flow

theorem isInterface_iff {instr : Instruction} {opcode : String} {id : TensorId} :
    instr.isInterface opcode id = true ↔
      UnitName.ofText? instr.unit = some .ni ∧ instr.opcode = opcode ∧
        instr.operands[0]? = some id := by
  simp [isInterface, and_assoc]

/-- Only the network interface does its operations. -/
theorem isInterface_of_unit {instr : Instruction} {unit : UnitName}
    (hunit : UnitName.ofText? instr.unit = some unit) (hne : unit ≠ .ni) (opcode : String)
    (id : TensorId) : instr.isInterface opcode id = false := by
  simp [isInterface, hunit, hne]

theorem isInterface_of_opcode {instr : Instruction} {opcode other : String}
    (hopcode : instr.opcode = other) (hne : other ≠ opcode) (id : TensorId) :
    instr.isInterface opcode id = false := by
  simp [isInterface, hopcode, hne]

theorem sends_eq_false {instr : Instruction} {own dest : Node} {flow : TensorId}
    (h : instr.isInterface "send" flow = false) : instr.sends own flow dest = false := by
  simp [sends, h]

theorem sends_iff {instr : Instruction} {own dest : Node} {flow : TensorId} :
    instr.sends own flow dest = true ↔
      instr.isInterface "send" flow = true ∧ (dest : Int) ∈ instr.operands.drop 1 ∧
        dest ≠ own := by
  simp [sends, and_assoc]

end Instruction

/-- The instruction that is taken up at a tick, if there is one. -/
def Tick.taken? (tick : Tick) : Option Instruction :=
  tick.attempt.bind fun attempt => if isTaken attempt.reply then some attempt.instr else none

namespace Core

/-- The copies for a node that a completed send asks for at a tick of a core. -/
def sentCopies (core : Core) (tick : Tick) (dest : Node) (flow : TensorId) : List Copy :=
  match tick.taken? with
  | some instr =>
      if instr.sends core.node flow dest then
        (core.path.tensors.get? flow).toList.map fun tensor => ⟨core.node, sentDims tensor.dims⟩
      else []
  | none => []

/-- The copies that a completed receive asks for at a tick of a core. -/
def consumedCopies (core : Core) (tick : Tick) (flow : TensorId) : List Copy :=
  match tick.taken? with
  | some instr =>
      if instr.receives flow then
        (core.path.port.inbound.find? fun packet => packet.flow == flow).toList.map Packet.copy
      else []
  | none => []

/-! ## Executions that are taken up -/

/-- What may become of the datapath at a tick. -/
inductive PathCase (core : Core) (credits : CreditBoard) (cycle : Cycle) (tick : Tick) : Prop
  /-- No instruction is taken up. -/
  | untouched (hpath : tick.core.path = core.path) (htaken : tick.taken? = none)
  /-- An instruction is taken up. -/
  | executed (instr : Instruction) (unit : UnitName) (execution : Execution)
      (hunit : UnitName.ofText? instr.unit = some unit)
      (hrun : core.path.RunCase core.spec credits unit instr cycle execution)
      (hreply : isTaken execution.reply = true) (hpath : tick.core.path = execution.path)
      (htaken : tick.taken? = some instr)

section Ticks

variable {watch : Watch} {core : Core} {credits : CreditBoard} {cycle : Cycle} {tick : Tick}

theorem TickCase.path_case (h : core.TickCase watch credits cycle tick) :
    core.PathCase credits cycle tick := by
  cases h with
  | idle _ _ hpath _ _ hattempt =>
      exact .untouched hpath (by rw [Tick.taken?, hattempt]; rfl)
  | turned _ index track _ hturn =>
      cases hturn with
      | drained _ _ hpath _ _ hattempt =>
          exact .untouched hpath (by rw [Tick.taken?, hattempt]; rfl)
      | tried instr _ _ hpath _ _ hattempt =>
          have htaken : tick.taken? =
              if isTaken (core.handing watch credits cycle instr).reply then some instr
              else none := by
            rw [Tick.taken?, hattempt]
            rfl
          cases hreply : isTaken (core.handing watch credits cycle instr).reply with
          | false =>
              refine .untouched (hpath.trans (handing_path_of_not_taken hreply)) ?_
              rw [htaken, hreply]
              rfl
          | true =>
              rw [hreply, if_pos rfl] at htaken
              unfold handing at hreply hpath
              cases hunit : UnitName.ofText? instr.unit with
              | none => rw [hunit] at hreply; simp at hreply
              | some unit =>
                  rw [hunit] at hreply hpath
                  dsimp only at hreply hpath
                  rw [isTaken_mapError] at hreply
                  exact .executed instr unit _ hunit
                    (core.path.run_case watch core.spec credits instr cycle unit) hreply hpath
                    htaken

/-! ## Sending -/

theorem sentCopies_of_not_sends {instr : Instruction} (htaken : tick.taken? = some instr)
    {dest : Node} {flow : TensorId} (h : instr.sends core.node flow dest = false) :
    core.sentCopies tick dest flow = [] := by
  unfold sentCopies
  rw [htaken]
  simp [h]

/-- A send of a known tensor asks for a copy at each of its destinations. -/
theorem sentCopies_of_sent {instr : Instruction} (htaken : tick.taken? = some instr)
    (hunit : UnitName.ofText? instr.unit = some .ni) (hopcode : instr.opcode = "send")
    {id : TensorId} (hid : instr.operands[0]? = some id)
    (hnodes : ∀ value ∈ instr.operands.drop 1, 0 ≤ value) {tensor : Tensor}
    (htensor : core.path.tensors.get? id = some tensor) {dest : Node} {flow : TensorId} :
    core.sentCopies tick dest flow =
      if id = flow then
        List.replicate
          (if dest ∈ sendDests core.spec.node (instr.operands.drop 1) then 1 else 0)
          ⟨core.spec.node, sentDims tensor.dims⟩
      else [] := by
  have hsends : instr.sends core.node flow dest = true ↔
      id = flow ∧ dest ∈ sendDests core.spec.node (instr.operands.drop 1) := by
    rw [Instruction.sends_iff, Instruction.isInterface_iff, mem_sendDests hnodes, hid, hunit]
    simp [hopcode, Core.node]
  by_cases hasked : id = flow ∧ dest ∈ sendDests core.spec.node (instr.operands.drop 1)
  · rw [sentCopies, htaken]
    dsimp only
    rw [if_pos (hsends.mpr hasked), if_pos hasked.1, if_pos hasked.2, ← hasked.1, htensor]
    rfl
  · have hnot : instr.sends core.node flow dest = false :=
      Bool.eq_false_iff.mpr fun h => hasked (hsends.mp h)
    rw [sentCopies_of_not_sends htaken hnot]
    by_cases hflow : id = flow
    · rw [if_pos hflow, if_neg fun h => hasked ⟨hflow, h⟩]
      rfl
    · rw [if_neg hflow]

/-- The packets that a tick queues make the copies that its send asks for, at every
node and of every flow. -/
theorem PathCase.sent (h : core.PathCase credits cycle tick)
    (hwidth : core.spec.channelWidth ≠ 0) (hdrained : core.path.port.outbound = [])
    (network : Network) (now : Cycle) (dest : Node) (flow : TensorId) :
    copiesOfFlow flow (Network.packetsFor dest
        (tick.core.path.port.outbound.flatMap (network.copiesOf now))) =
      core.sentCopies tick dest flow := by
  have hnone : copiesOfFlow flow (Network.packetsFor dest
      (core.path.port.outbound.flatMap (network.copiesOf now))) = [] := by
    rw [hdrained]
    rfl
  cases h with
  | untouched hpath htaken =>
      rw [hpath, hnone, sentCopies, htaken]
  | executed instr unit execution hunit hrun hreply hpath htaken =>
      cases hrun with
      | refused fault hrefused _ _ => rw [hrefused] at hreply; simp at hreply
      | waited _ hwaited _ _ => rw [hwaited] at hreply; simp at hreply
      | worked hother doneAt _ hport _ =>
          rw [hpath, hport, hnone, sentCopies_of_not_sends htaken]
          exact Instruction.sends_eq_false (Instruction.isInterface_of_unit hunit hother _ _)
      | kept _ _ id _ hnodes hdests _ hsame _ =>
          rw [hpath, hsame, hnone, sentCopies_of_not_sends htaken]
          rw [Bool.eq_false_iff, ne_eq, Instruction.sends_iff]
          rintro ⟨-, hdest⟩
          have hmem := (mem_sendDests hnodes).mpr hdest
          rw [Core.node, hdests] at hmem
          simp at hmem
      | received _ hopcode id _ packet _ _ haccept _ =>
          have hport : tick.core.path.port.outbound = core.path.port.outbound := by
            rw [hpath, haccept]
            rfl
          rw [hport, hnone, sentCopies_of_not_sends htaken]
          exact Instruction.sends_eq_false
            (Instruction.isInterface_of_opcode hopcode (by decide) _)
      | sent hni hopcode id hid hnodes tensor htensor _ paths hpaths _ hqueued _ =>
          have hport : tick.core.path.port.outbound = paths.map (core.spec.packet tensor) := by
            rw [hpath, hqueued]
            unfold Datapath.enqueue
            dsimp only
            rw [hdrained, List.nil_append]
          have htensorId : tensor.id = id := TensorTable.id_of_get? htensor
          rw [hni] at hunit
          rw [hport, Network.copiesOfFlow_packets hwidth, htensorId,
            count_paths (nodup_sendDests _ _) hpaths,
            sentCopies_of_sent htaken hunit hopcode hid hnodes htensor]

/-! ## Receiving -/

/-- The packets of a flow are those that are left when one is taken, and that one if
it is of the flow. -/
theorem copiesOfFlow_eraseP {packets : List Packet} {id : TensorId} {packet : Packet}
    (h : (packets.find? fun packet => packet.flow == id) = some packet) (flow : TensorId) :
    copiesOfFlow flow packets = (if id = flow then [packet.copy] else []) ++
      copiesOfFlow flow (packets.eraseP fun packet => packet.flow == id) := by
  unfold copiesOfFlow
  rw [filter_flow_eraseP h flow, List.map_append]
  by_cases hsame : id = flow
  · rw [if_pos hsame, if_pos hsame, List.map_singleton]
  · rw [if_neg hsame, if_neg hsame, List.map_nil]

theorem consumedCopies_of_not_receives {instr : Instruction} (htaken : tick.taken? = some instr)
    {flow : TensorId} (h : instr.receives flow = false) : core.consumedCopies tick flow = [] := by
  unfold consumedCopies
  rw [htaken]
  simp [h]

/-- The arrived packets of a flow are those that a tick leaves, and the one that it
receives. -/
theorem PathCase.consumed (h : core.PathCase credits cycle tick) (flow : TensorId) :
    copiesOfFlow flow core.path.port.inbound =
      core.consumedCopies tick flow ++ copiesOfFlow flow tick.core.path.port.inbound := by
  cases h with
  | untouched hpath htaken =>
      rw [hpath, consumedCopies, htaken]
      rfl
  | executed instr unit execution hunit hrun hreply hpath htaken =>
      have hother {opcode : String} (hopcode : instr.opcode = opcode) (hne : opcode ≠ "recv") :
          core.consumedCopies tick flow = [] :=
        consumedCopies_of_not_receives htaken
          (Instruction.isInterface_of_opcode hopcode hne flow)
      cases hrun with
      | refused fault hrefused _ _ => rw [hrefused] at hreply; simp at hreply
      | waited _ hwaited _ _ => rw [hwaited] at hreply; simp at hreply
      | worked hunit' doneAt _ hport _ =>
          have hnone : core.consumedCopies tick flow = [] :=
            consumedCopies_of_not_receives htaken
              (Instruction.isInterface_of_unit hunit hunit' "recv" flow)
          rw [hpath, hport, hnone]
          rfl
      | kept _ hopcode id _ _ _ _ hsame _ =>
          rw [hpath, hsame, hother hopcode (by decide)]
          rfl
      | sent _ hopcode id _ _ tensor _ _ paths _ _ hqueued _ =>
          rw [hpath, hqueued, hother hopcode (by decide)]
          rfl
      | received hni hopcode id hid packet hfind _ haccept _ =>
          have hreceives : instr.receives flow = true ↔ id = flow := by
            rw [Instruction.receives, Instruction.isInterface_iff, hid, hunit, hni]
            simp [hopcode]
          have hconsumed : core.consumedCopies tick flow =
              if id = flow then [packet.copy] else [] := by
            rw [consumedCopies, htaken]
            dsimp only
            by_cases hsame : id = flow
            · rw [if_pos (hreceives.mpr hsame), if_pos hsame, ← hsame, hfind]
              rfl
            · rw [if_neg fun h => hsame (hreceives.mp h), if_neg hsame]
          rw [hpath, haccept, hconsumed]
          exact copiesOfFlow_eraseP hfind flow

/-- A receive that is complete has taken one packet, and the tensor has the shape
that the packet brings. -/
theorem PathCase.received (h : core.PathCase credits cycle tick) {instr : Instruction}
    {flow : TensorId} (htaken : tick.taken? = some instr) (hrecv : instr.receives flow = true) :
    ∃ copy, core.consumedCopies tick flow = [copy] ∧
      tick.core.path.tensors.dims? flow = some copy.dims := by
  obtain ⟨hni, hopcode, hflow⟩ := Instruction.isInterface_iff.mp hrecv
  cases h with
  | untouched _ hnone => rw [htaken] at hnone; simp at hnone
  | executed other unit execution hunit hrun hreply hpath hother =>
      rw [htaken, Option.some.injEq] at hother
      subst hother
      rw [hni, Option.some.injEq] at hunit
      cases hrun with
      | refused fault hrefused _ _ => rw [hrefused] at hreply; simp at hreply
      | waited _ hwaited _ _ => rw [hwaited] at hreply; simp at hreply
      | worked hunit' doneAt _ _ _ => exact absurd hunit.symm hunit'
      | kept _ hsend id _ _ _ _ _ _ => rw [hopcode] at hsend; simp at hsend
      | sent _ hsend id _ _ tensor _ _ paths _ _ _ _ => rw [hopcode] at hsend; simp at hsend
      | received _ _ id hid packet hfind _ haccept _ =>
          rw [hflow, Option.some.injEq] at hid
          subst hid
          refine ⟨packet.copy, ?_, ?_⟩
          · rw [consumedCopies, htaken]
            dsimp only
            rw [if_pos hrecv, hfind]
            rfl
          · rw [hpath, haccept]
            exact TensorTable.dims?_insert_self _ _ _

end Ticks

end Core

end CoreArray
