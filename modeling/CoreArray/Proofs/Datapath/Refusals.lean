import Mathlib
import CoreArray.Task.Lowering
import CoreArray.Proofs.Results
import CoreArray.Proofs.Datapath.Cases
import CoreArray.Proofs.Datapath.Packets
set_option autoImplicit false

/-!
# When the units refuse (SPEC §4.3, §7)

On a core with the usual latencies (`CoreSpec.IsStandard`) the bus and the buffer refuse
no move of a tensor, and the network interface refuses neither a receive nor the send of
a known tensor to nodes that exist.  A sleep is refused only if it would end beyond the
clock, and a calculation only for its configuration and its tensors.

Tensors stay known: whatever a unit does, the tensor table only grows (`contains_run`).
-/

namespace CoreArray

/-! ## Credit -/

namespace CreditBoard

theorem exists_set {board : CreditBoard} {node : Node} (h : node < board.size) (isOpen : Bool) :
    ∃ after, board.set node isOpen = .ok after ∧ after.size = board.size := by
  refine ⟨⟨board.flags.set node isOpen⟩, if_pos h, ?_⟩
  unfold size
  exact List.length_set

/-- Asked about its own nodes, the board answers whether all of them are open. -/
theorem allOpen_of_inside {board : CreditBoard} {nodes : List Node}
    (h : ∀ node ∈ nodes, node < board.size) :
    board.allOpen nodes = .ok (nodes.all fun node => board.flags[node]? == some true) := by
  induction nodes with
  | nil => rfl
  | cons first nodes ih =>
      have hlt : first < board.flags.length := h first List.mem_cons_self
      unfold allOpen CreditBoard.isOpen
      rw [ih fun node hmem => h node (List.mem_cons_of_mem first hmem),
        List.getElem?_eq_getElem hlt, List.all_cons, List.getElem?_eq_getElem hlt]
      cases board.flags[first] <;> rfl

end CreditBoard

/-! ## Tensor tables grow -/

namespace Contraction

/-- The calculation for which a configuration asks. -/
def ofConfig (table : TensorTable) (config : String) (output : TensorId)
    (inputs : List TensorId) : Except Fault Nat × TensorTable :=
  if config = Datapath.convConfig then conv table output inputs
  else einsum table config output inputs

/-- What a calculation makes of the tensor table: its output is allocated. -/
theorem exists_allocate_of_ofConfig {table after : TensorTable} {config : String}
    {output : TensorId} {inputs : List TensorId} {macs : Nat}
    (h : ofConfig table config output inputs = (.ok macs, after)) :
    ∃ dims, after = table.allocate output dims := by
  unfold ofConfig at h
  split at h
  · unfold conv at h
    split at h
    · dsimp only at h
      split at h
      · exact ⟨_, (Prod.mk.inj h).2.symm⟩
      · simp at h
    · simp at h
  · unfold einsum at h
    split at h
    · simp at h
    · split at h
      · simp at h
      · dsimp only at h
        split at h
        · simp at h
        · split at h
          · simp at h
          · exact ⟨_, (Prod.mk.inj h).2.symm⟩

end Contraction

namespace Datapath

section Runs

variable {watch : Watch} {spec : CoreSpec} {credits : CreditBoard} {path : Datapath}
  {cycle : Cycle}

/-- What an accelerator instruction makes of the tensor table: its output is allocated. -/
theorem exists_allocate_of_accPlan {instr : Instruction} {tensors after : TensorTable}
    {rate : Binary64} {macs : Nat} (h : accPlan spec tensors instr = (.ok (rate, macs), after)) :
    ∃ output dims, instr.operands[0]? = some output ∧ after = tensors.allocate output dims := by
  unfold accPlan at h
  split at h
  · simp at h
  · split at h
    · simp at h
    · next config hconfig =>
        split at h
        · simp at h
        · next output houtput =>
            dsimp only at h
            split at h
            · simp at h
            · next count table hcalculate =>
                obtain ⟨-, rfl⟩ := Prod.mk.inj h
                obtain ⟨dims, hdims⟩ := Contraction.exists_allocate_of_ofConfig hcalculate
                exact ⟨output, dims, operandOf_eq_ok houtput, hdims⟩

/-- What a reshape makes of the tensor table: the tensor that it names has a new shape. -/
theorem of_reshapePlan {instr : Instruction} {tensors after : TensorTable} {tensor : Tensor}
    {dims : List Nat} (h : reshapePlan tensors instr = (.ok (tensor, dims), after)) :
    instr.operands[0]? = some tensor.id ∧ after = tensors.insert { tensor with dims } := by
  unfold reshapePlan at h
  cases hid : operandOf instr 0 with
  | error fault => rw [hid] at h; simp at h
  | ok named =>
      rw [hid] at h
      dsimp only at h
      split at h
      · simp at h
      · split at h
        · simp at h
        · next found hfound =>
            split at h
            · obtain ⟨hplan, rfl⟩ := Prod.mk.inj h
              obtain ⟨rfl, rfl⟩ := Prod.mk.inj (Except.ok.inj hplan)
              rw [operandOf_eq_ok hid, TensorTable.id_of_get? hfound]
              exact ⟨rfl, rfl⟩
            · simp at h

theorem contains_runBus {instr : Instruction} {id : TensorId}
    (h : path.tensors.contains id = true) :
    (path.runBus watch spec credits instr cycle).path.tensors.contains id = true := by
  unfold runBus
  split
  · exact h
  · exact h

theorem contains_runCpu {instr : Instruction} {id : TensorId}
    (h : path.tensors.contains id = true) :
    (path.runCpu watch spec credits instr cycle).path.tensors.contains id = true := by
  unfold runCpu
  split
  · exact h
  · split
    · split
      · next hplan =>
          rw [reshapePlan_of_error hplan]
          exact h
      · next hplan =>
          rw [(of_reshapePlan hplan).2]
          exact TensorTable.contains_insert h _
    · split
      · exact h
      · split
        · split
          · exact h
          · exact h
        · exact h

theorem contains_runAcc {instr : Instruction} {id : TensorId}
    (h : path.tensors.contains id = true) :
    (path.runAcc watch spec credits instr cycle).path.tensors.contains id = true := by
  unfold runAcc
  split
  · next hplan =>
      rw [accPlan_of_error hplan]
      exact h
  · next hplan =>
      obtain ⟨output, dims, -, rfl⟩ := exists_allocate_of_accPlan hplan
      exact TensorTable.contains_allocate h _ _

theorem contains_runBuffer {instr : Instruction} {id : TensorId}
    (h : path.tensors.contains id = true) :
    (path.runBuffer watch spec credits instr cycle).path.tensors.contains id = true := by
  unfold runBuffer
  split
  · exact h
  · exact h

theorem contains_runInterface {instr : Instruction} {id : TensorId}
    (h : path.tensors.contains id = true) :
    (path.runInterface watch spec credits instr cycle).path.tensors.contains id = true := by
  cases path.runInterface_case watch spec credits instr cycle with
  | refused _ _ hpath _ => rw [hpath]; exact h
  | waited _ _ hpath _ => rw [hpath]; exact h
  | worked hunit _ _ _ _ => simp at hunit
  | kept _ _ _ _ _ _ _ hpath _ => rw [hpath]; exact h
  | sent _ _ _ _ _ _ _ _ _ _ _ hpath _ => rw [hpath]; exact h
  | received _ _ _ _ _ _ _ hpath _ => rw [hpath]; exact TensorTable.contains_insert h _

/-- No instruction makes a core forget a tensor. -/
theorem contains_run {instr : Instruction} {id : TensorId}
    (h : path.tensors.contains id = true) (unit : UnitName) :
    (path.run watch spec credits unit instr cycle).path.tensors.contains id = true := by
  cases unit with
  | bus => exact contains_runBus h
  | cpu => exact contains_runCpu h
  | acc => exact contains_runAcc h
  | buffer => exact contains_runBuffer h
  | ni => exact contains_runInterface h

end Runs

end Datapath

/-! ## Cores for compiled tasks -/

/-- Whether an operation has a throughput. -/
def LatencyTable.hasRate (table : LatencyTable) (unit : UnitName) (opcode : String) : Bool :=
  (table.cost? unit opcode).any fun cost => !cost.isNonpos

/-- A core among so many nodes that sends packet by packet and has the latencies that
compiled tasks need. -/
structure CoreSpec.IsStandard (spec : CoreSpec) (nodes : Nat) : Prop where
  check : spec.check (.allOpened nodes) = .ok ()
  delivery : spec.delivery = .unicast
  trans : (spec.latencies.cost? .bus "trans").isSome = true
  sleep : (spec.latencies.cost? .cpu "sleep").isSome = true
  read : spec.latencies.hasRate .buffer "read" = true
  write : spec.latencies.hasRate .buffer "write" = true
  calculate : spec.latencies.hasRate .acc "cal" = true

namespace CoreSpec

variable {spec : CoreSpec}

theorem IsStandard.node_lt {nodes : Nat} (h : spec.IsStandard nodes) : spec.node < nodes := by
  have hlt := (of_check h.check).2
  unfold CreditBoard.size CreditBoard.allOpened at hlt
  rw [List.length_replicate] at hlt
  exact hlt

theorem exists_costOf {unit : UnitName} (instr : Instruction)
    (h : (spec.latencies.cost? unit instr.opcode).isSome = true) :
    ∃ cost, spec.costOf unit instr = .ok cost := by
  obtain ⟨cost, hcost⟩ := Option.isSome_iff_exists.mp h
  refine ⟨cost, ?_⟩
  unfold costOf
  rw [hcost]

theorem exists_rateOf {unit : UnitName} (instr : Instruction)
    (h : spec.latencies.hasRate unit instr.opcode = true) :
    ∃ rate, spec.rateOf unit instr = .ok rate := by
  unfold LatencyTable.hasRate at h
  rw [Option.any_eq_true] at h
  obtain ⟨rate, hcost, hpositive⟩ := h
  refine ⟨rate, ?_⟩
  unfold rateOf costOf
  rw [hcost]
  dsimp only
  rw [if_neg]
  simpa using hpositive

end CoreSpec

/-! ## Instructions that are not refused -/

namespace Datapath

variable {watch : Watch} {spec : CoreSpec} {credits : CreditBoard} {path : Datapath}
  {cycle : Cycle}

/-- The network interface is asked with its credit up to date. -/
theorem exists_refresh (h : spec.node < credits.size) :
    ∃ board, path.refreshCredit spec credits = .ok board ∧ board.size = credits.size :=
  CreditBoard.exists_set h _

theorem exists_runBus {instr : Instruction}
    (h : (spec.latencies.cost? .bus instr.opcode).isSome = true) :
    ∃ outcome, (path.runBus watch spec credits instr cycle).reply = .ok outcome := by
  obtain ⟨cost, hcost⟩ := CoreSpec.exists_costOf instr h
  unfold runBus
  rw [hcost]
  exact ⟨_, rfl⟩

theorem exists_runBuffer {opcode : String} {id : TensorId}
    (h : spec.latencies.hasRate .buffer opcode = true) :
    ∃ outcome, (path.runBuffer watch spec credits (.plain "BUFFER" opcode [id]) cycle).reply =
      .ok outcome := by
  obtain ⟨rate, hrate⟩ := CoreSpec.exists_rateOf (.plain "BUFFER" opcode [id]) h
  unfold runBuffer bufferPlan
  rw [hrate]
  exact ⟨_, rfl⟩

/-- A receive completes if a packet of its flow is queued, and otherwise has to wait. -/
theorem reply_recv {instr : Instruction} {flow : TensorId} (hnode : spec.node < credits.size)
    (hopcode : instr.opcode = "recv") (hflow : instr.operands[0]? = some flow) :
    (path.runInterface watch spec credits instr cycle).reply =
      if ∃ packet ∈ path.port.inbound, packet.flow = flow then .ok (.complete (cycle + 1))
      else .ok .notYet := by
  obtain ⟨board, hboard, -⟩ := path.exists_refresh hnode
  unfold runInterface
  rw [hboard]
  dsimp only
  rw [if_neg (by rw [hopcode]; decide), if_pos hopcode, recv, operandOf_of_getElem? hflow]
  dsimp only
  cases hfind : path.port.inbound.find? fun packet => packet.flow == flow with
  | none =>
      rw [if_neg]
      rintro ⟨packet, hmem, hsame⟩
      exact List.find?_eq_none.mp hfind packet hmem (beq_iff_eq.mpr hsame)
  | some packet =>
      rw [if_pos]
      obtain ⟨hsame, -⟩ := List.find?_eq_some_iff_append.mp hfind
      exact ⟨packet, List.mem_of_find?_eq_some hfind, eq_of_beq hsame⟩

theorem exists_recv {id : TensorId} (hnode : spec.node < credits.size) :
    ∃ outcome, (path.runInterface watch spec credits (Lowering.recv id) cycle).reply =
      .ok outcome := by
  have hid : (Lowering.recv id).operands[0]? = some id := rfl
  rw [reply_recv hnode rfl hid]
  split
  · exact ⟨_, rfl⟩
  · exact ⟨_, rfl⟩

theorem exists_dispatch {tensor : Tensor} {dests : List Node} (h : spec.delivery = .unicast) :
    ∃ outcome, (path.dispatch watch spec credits tensor dests cycle).reply = .ok outcome := by
  have hpaths : ∃ paths, spec.paths tensor.id dests = .ok paths := by
    unfold CoreSpec.paths
    rw [h]
    exact ⟨_, rfl⟩
  obtain ⟨paths, hpaths⟩ := hpaths
  unfold dispatch
  rw [hpaths]
  exact ⟨_, rfl⟩

/-- The operands of a send are the tensor and these nodes. -/
theorem operands_send {nodes : Nat} {id : TensorId} {dests : List Node}
    (hnodes : nodes ≤ 2 ^ 63) (hdests : ∀ dest ∈ dests, dest < nodes) :
    (Lowering.send id dests).operands = id :: dests.map fun dest : Node => (dest : Int) := by
  refine congrArg (id :: ·) (List.map_congr_left fun dest hmem => ?_)
  have hlt : dest < nodes := hdests dest hmem
  apply Text.wrapSigned_of_le
  unfold Text.maxSigned
  omega

/-- What a send comes to, once the own credit is up to date, if the operands after its tensor
are nodes. -/
theorem runInterface_sendDests {board : CreditBoard} {instr : Instruction} {id : TensorId}
    (hrefresh : path.refreshCredit spec credits = .ok board) (hopcode : instr.opcode = "send")
    (hid : instr.operands[0]? = some id) (hnodes : ∀ value ∈ instr.operands.drop 1, 0 ≤ value) :
    path.runInterface watch spec credits instr cycle =
      Execution.after (spec.ownSendEvents watch id (instr.operands.drop 1))
        (if sendDests spec.node (instr.operands.drop 1) = [] then
          { reply := .ok (.complete (cycle + 1)), path, credits := board, events := [] }
        else
          path.sendTo watch spec board instr id
            (sendDests spec.node (instr.operands.drop 1)) cycle) := by
  have hnonneg : (instr.operands.drop 1).find? (fun value => value < 0) = none := by
    rw [List.find?_eq_none]
    intro value hmem
    simpa using hnodes value hmem
  unfold runInterface
  rw [hrefresh]
  dsimp only
  rw [if_pos hopcode, send, operandOf_of_getElem? hid]
  dsimp only
  rw [hnonneg]
  dsimp only
  split
  · next hnone =>
      rw [if_pos hnone]
      unfold Execution.after
      rw [List.append_nil]
  · next hsome =>
      rw [if_neg (fun hnone => hsome hnone)]

/-- What a send that names nodes comes to, once the own credit is up to date. -/
theorem runInterface_send {board : CreditBoard} {instr : Instruction} {id : TensorId}
    {nodes : List Node}
    (hrefresh : path.refreshCredit spec credits = .ok board) (hopcode : instr.opcode = "send")
    (hoperands : instr.operands = id :: nodes.map fun node : Node => (node : Int)) :
    path.runInterface watch spec credits instr cycle =
      Execution.after (spec.ownSendEvents watch id (instr.operands.drop 1))
        (if otherNodes spec.node nodes = [] then
          { reply := .ok (.complete (cycle + 1)), path, credits := board, events := [] }
        else path.sendTo watch spec board instr id (otherNodes spec.node nodes) cycle) := by
  have hid : instr.operands[0]? = some id := by rw [hoperands, List.getElem?_cons_zero]
  have hnodes : instr.operands.drop 1 = nodes.map fun node : Node => (node : Int) := by
    rw [hoperands, List.drop_one, List.tail_cons]
  have hnonneg : ∀ value ∈ instr.operands.drop 1, 0 ≤ value := by
    intro value hmem
    rw [hnodes] at hmem
    obtain ⟨node, -, rfl⟩ := List.mem_map.mp hmem
    exact Int.natCast_nonneg node
  rw [runInterface_sendDests hrefresh hopcode hid hnonneg, hnodes, sendDests_natCast]

/-- A known tensor can be sent to nodes that exist. -/
theorem exists_send {nodes : Nat} {id : TensorId} {dests : List Node}
    (hdelivery : spec.delivery = .unicast) (hnode : spec.node < nodes)
    (hsize : credits.size = nodes) (hnodes : nodes ≤ 2 ^ 63)
    (hknown : path.tensors.contains id = true) (hdests : ∀ dest ∈ dests, dest < nodes) :
    ∃ outcome, (path.runInterface watch spec credits (Lowering.send id dests) cycle).reply =
      .ok outcome := by
  obtain ⟨board, hboard, hsame⟩ := path.exists_refresh (hsize ▸ hnode)
  -- Every destination is looked up, whether it is open or not.
  have hbelow : ∀ dest ∈ otherNodes spec.node dests, dest < board.size := by
    intro dest hmem
    rw [hsame, hsize]
    exact hdests dest (mem_otherNodes.mp hmem).1
  have hopen := CreditBoard.allOpen_of_inside hbelow
  obtain ⟨tensor, htensor⟩ : ∃ tensor, path.tensors.get? id = some tensor := by
    unfold TensorTable.contains at hknown
    obtain ⟨dims, hdims⟩ := Option.isSome_iff_exists.mp hknown
    refine ⟨⟨id, dims⟩, ?_⟩
    unfold TensorTable.get?
    rw [hdims]
    rfl
  rw [runInterface_send hboard rfl (operands_send hnodes hdests)]
  split
  · exact ⟨_, rfl⟩
  · unfold Execution.after sendTo
    rw [htensor]
    dsimp only
    rw [hopen]
    split
    · next hfault => simp at hfault
    · exact exists_dispatch hdelivery
    · exact ⟨_, rfl⟩

/-! ## Instructions that may be refused -/

theorem of_sleep_refused {cycles : Int} {fault : ExecFault}
    (hcost : (spec.latencies.cost? .cpu "sleep").isSome = true) (hcycles : 0 ≤ cycles)
    (h : (path.runCpu watch spec credits (Lowering.sleep cycles) cycle).reply = .error fault) :
    fault = .clockOverflow (Lowering.sleep cycles) cycle ∧
      lastCycle < cycle + cycles.toNat := by
  obtain ⟨cost, hcost⟩ := CoreSpec.exists_costOf (Lowering.sleep cycles) hcost
  have hsleep : (Lowering.sleep cycles).opcode = "sleep" := rfl
  have hid : operandOf (Lowering.sleep cycles) 0 = .ok cycles := rfl
  unfold runCpu at h
  rw [hcost] at h
  dsimp only at h
  rw [if_neg (by rw [hsleep]; decide), if_neg (by rw [hsleep]; decide), if_pos hsleep, sleepEnd,
    hid] at h
  dsimp only at h
  rw [if_neg (by omega)] at h
  by_cases hlate : lastCycle < cycle + cycles.toNat
  · rw [if_pos hlate] at h
    exact ⟨(Except.error.inj h).symm, hlate⟩
  · rw [if_neg hlate] at h
    simp at h

theorem of_calculate_refused {config : String} {output : TensorId} {inputs : List TensorId}
    {fault : ExecFault} (hrate : spec.latencies.hasRate .acc "cal" = true)
    (h : (path.runAcc watch spec credits (Lowering.calculate (some config) output inputs)
      cycle).reply = .error fault) :
    ∃ reason, (Contraction.ofConfig path.tensors config output inputs).1 = .error reason ∧
      fault = .contraction (Lowering.calculate (some config) output inputs) reason := by
  obtain ⟨rate, hrate⟩ := CoreSpec.exists_rateOf
    (Lowering.calculate (some config) output inputs) hrate
  have hconfig : (Lowering.calculate (some config) output inputs).config = some config := rfl
  have hid : operandOf (Lowering.calculate (some config) output inputs) 0 = .ok output := rfl
  have hinputs : (Lowering.calculate (some config) output inputs).operands.drop 1 = inputs := rfl
  unfold runAcc at h
  cases hresult : Contraction.ofConfig path.tensors config output inputs with
  | mk outcome tensors =>
      unfold Contraction.ofConfig at hresult
      unfold accPlan at h
      rw [hrate, hconfig, hid, hinputs] at h
      dsimp only at h
      rw [hresult] at h
      cases outcome with
      | ok macs => simp at h
      | error reason => exact ⟨reason, rfl, (Except.error.inj h).symm⟩

end Datapath

end CoreArray
