import CoreArray.Datapath.Units
import CoreArray.Proofs.Results
set_option autoImplicit false

/-!
# What an execution can do (SPEC §4.3, §4.4)

An instruction that is handed to a unit is refused, has to wait, works on the
core alone, or sends or receives packets.  `RunCase` lists these cases with all
that they change, and `run_case` says that there are no others; what holds of
every execution is read off the list.

The last section says how little a reply depends on the clock: an instruction
that is taken up at a cycle is taken up at every earlier cycle, and one that has
to wait has to wait at every cycle.
-/

namespace CoreArray

/-- Whether a reply says that the instruction is taken up. -/
def isTaken {ε : Type} : Except ε Outcome → Bool
  | .ok (.complete _) => true
  | _ => false

/-- Whether an outcome is a completion. -/
def isReady : Outcome → Bool
  | .complete _ => true
  | .notYet => false

@[simp] theorem isTaken_error {ε : Type} (fault : ε) :
    isTaken (.error fault : Except ε Outcome) = false := rfl

@[simp] theorem isTaken_complete {ε : Type} (doneAt : Cycle) :
    isTaken (.ok (.complete doneAt) : Except ε Outcome) = true := rfl

@[simp] theorem isTaken_notYet {ε : Type} :
    isTaken (.ok .notYet : Except ε Outcome) = false := rfl

@[simp] theorem isTaken_mapError {ε δ : Type} (f : ε → δ) (reply : Except ε Outcome) :
    isTaken (reply.mapError f) = isTaken reply := by
  cases reply with
  | error fault => rfl
  | ok outcome => cases outcome <;> rfl

/-- Only a completion is a taking up. -/
theorem isTaken_iff {ε : Type} {reply : Except ε Outcome} :
    isTaken reply = true ↔ ∃ doneAt, reply = .ok (.complete doneAt) := by
  cases reply with
  | error fault => simp
  | ok outcome => cases outcome <;> simp

namespace CreditBoard

/-- Setting a flag to what it shows changes nothing. -/
theorem set_of_getElem? {board : CreditBoard} {node : Node} {isOpen : Bool}
    (h : board.flags[node]? = some isOpen) : board.set node isOpen = .ok board := by
  obtain ⟨hlt, hget⟩ := List.getElem?_eq_some_iff.mp h
  have hset : board.flags.set node isOpen = board.flags := by
    rw [← hget]
    exact List.set_getElem_self hlt
  unfold set size
  rw [if_pos hlt, hset]

/-- Setting a flag leaves the others. -/
theorem set_frame {board after : CreditBoard} {node : Node} {isOpen : Bool}
    (h : board.set node isOpen = .ok after) :
    after.size = board.size ∧
      ∀ other, other ≠ node → after.flags[other]? = board.flags[other]? := by
  unfold set at h
  split at h
  · rw [Except.ok.injEq] at h
    subst h
    refine ⟨List.length_set, fun other hne => ?_⟩
    exact List.getElem?_set_ne hne.symm
  · simp at h

end CreditBoard

namespace Datapath

/-- Whether the arrived packets leave the credit of a node open. -/
def hasRoom (spec : CoreSpec) (path : Datapath) : Bool :=
  path.port.inbound.length ≤ spec.threshold

/-- What may come of an instruction that is handed to a unit. -/
inductive RunCase (spec : CoreSpec) (credits : CreditBoard) (path : Datapath) (unit : UnitName)
    (instr : Instruction) (cycle : Cycle) (e : Execution) : Prop
  /-- The unit refuses the instruction. -/
  | refused (fault : ExecFault) (hreply : e.reply = .error fault) (hpath : e.path = path)
      (hcredits : e.credits = credits ∨ path.refreshCredit spec credits = .ok e.credits)
  /-- The network interface makes the instruction wait. -/
  | waited (hunit : unit = .ni) (hreply : e.reply = .ok .notYet) (hpath : e.path = path)
      (hcredits : path.refreshCredit spec credits = .ok e.credits)
  /-- Another unit works on the tensors of the core. -/
  | worked (hunit : unit ≠ .ni) (doneAt : Cycle) (hreply : e.reply = .ok (.complete doneAt))
      (hport : e.path.port = path.port) (hcredits : e.credits = credits)
  /-- A tensor is sent to the own node only, that is to none. -/
  | kept (hunit : unit = .ni) (hopcode : instr.opcode = "send") (id : TensorId)
      (hid : instr.operands[0]? = some id)
      (hnodes : ∀ value ∈ instr.operands.drop 1, 0 ≤ value)
      (hdests : sendDests spec.node (instr.operands.drop 1) = [])
      (hreply : e.reply = .ok (.complete (cycle + 1))) (hpath : e.path = path)
      (hcredits : path.refreshCredit spec credits = .ok e.credits)
  /-- A tensor is sent to other nodes, all of which are open. -/
  | sent (hunit : unit = .ni) (hopcode : instr.opcode = "send") (id : TensorId)
      (hid : instr.operands[0]? = some id)
      (hnodes : ∀ value ∈ instr.operands.drop 1, 0 ≤ value)
      (tensor : Tensor) (htensor : path.tensors.get? id = some tensor)
      (hopen : e.credits.allOpen (sendDests spec.node (instr.operands.drop 1)) = .ok true)
      (paths : List RoutingTree)
      (hpaths : spec.paths tensor.id (sendDests spec.node (instr.operands.drop 1)) = .ok paths)
      (hreply : e.reply = .ok (.complete (cycle + 1)))
      (hpath : e.path = path.enqueue (paths.map (spec.packet tensor)))
      (hcredits : path.refreshCredit spec credits = .ok e.credits)
  /-- The first packet of a flow is received. -/
  | received (hunit : unit = .ni) (hopcode : instr.opcode = "recv") (id : TensorId)
      (hid : instr.operands[0]? = some id) (packet : Packet)
      (hfind : (path.port.inbound.find? fun packet => packet.flow == id) = some packet)
      (hreply : e.reply = .ok (.complete (cycle + 1))) (hpath : e.path = path.accept id packet)
      (hcredits : path.refreshCredit spec credits = .ok e.credits)

section Cases

variable (watch : Watch) (spec : CoreSpec) (credits : CreditBoard) (path : Datapath)
  (instr : Instruction) (cycle : Cycle)

theorem operandOf_eq_ok {instr : Instruction} {index : Nat} {value : Int}
    (h : operandOf instr index = .ok value) : instr.operands[index]? = some value := by
  have hoperand : instr.operand? index = .ok value := ok_of_mapError h
  unfold Instruction.operand? at hoperand
  split at hoperand
  · next found hget => rw [hget, Except.ok.inj hoperand]
  · nomatch hoperand

theorem operandOf_of_getElem? {instr : Instruction} {index : Nat} {value : Int}
    (h : instr.operands[index]? = some value) : operandOf instr index = .ok value := by
  unfold operandOf Instruction.operand?
  rw [h]
  rfl

theorem runBus_case :
    path.RunCase spec credits .bus instr cycle (path.runBus watch spec credits instr cycle) := by
  unfold runBus
  split
  · exact .refused _ rfl rfl (.inl rfl)
  · exact .worked (by decide) _ rfl rfl rfl

/-- A reshape that is refused leaves all tensors as they are. -/
theorem reshapePlan_of_error {tensors after : TensorTable} {instr : Instruction}
    {fault : ExecFault} (h : reshapePlan tensors instr = (.error fault, after)) :
    after = tensors := by
  unfold reshapePlan at h
  split at h
  · exact (Prod.mk.inj h).2.symm
  · split at h
    · exact (Prod.mk.inj h).2.symm
    · split at h
      · exact (Prod.mk.inj h).2.symm
      · split at h
        · simp at h
        · exact (Prod.mk.inj h).2.symm

/-- An accelerator instruction that is refused leaves all tensors as they are. -/
theorem accPlan_of_error {spec : CoreSpec} {tensors after : TensorTable} {instr : Instruction}
    {fault : ExecFault} (h : accPlan spec tensors instr = (.error fault, after)) :
    after = tensors := by
  unfold accPlan at h
  split at h
  · exact (Prod.mk.inj h).2.symm
  · split at h
    · exact (Prod.mk.inj h).2.symm
    · split at h
      · exact (Prod.mk.inj h).2.symm
      · dsimp only at h
        split at h
        · next reason tensors hresult =>
            obtain ⟨-, rfl⟩ := Prod.mk.inj h
            split at hresult
            · exact Contraction.conv_of_error hresult
            · exact Contraction.einsum_of_error hresult
        · simp at h

theorem runCpu_case :
    path.RunCase spec credits .cpu instr cycle (path.runCpu watch spec credits instr cycle) := by
  unfold runCpu
  split
  · exact .refused _ rfl rfl (.inl rfl)
  · split
    · split
      · next hplan =>
          refine .refused _ rfl ?_ (.inl rfl)
          rw [reshapePlan_of_error hplan]
          rfl
      · exact .worked (by decide) _ rfl rfl rfl
    · split
      · exact .worked (by decide) _ rfl rfl rfl
      · split
        · split
          · exact .refused _ rfl rfl (.inl rfl)
          · exact .worked (by decide) _ rfl rfl rfl
        · exact .refused _ rfl rfl (.inl rfl)

theorem runAcc_case :
    path.RunCase spec credits .acc instr cycle (path.runAcc watch spec credits instr cycle) := by
  unfold runAcc
  split
  · next hplan =>
      refine .refused _ rfl ?_ (.inl rfl)
      rw [accPlan_of_error hplan]
      rfl
  · exact .worked (by decide) _ rfl rfl rfl

theorem runBuffer_case :
    path.RunCase spec credits .buffer instr cycle
      (path.runBuffer watch spec credits instr cycle) := by
  unfold runBuffer
  split
  · exact .refused _ rfl rfl (.inl rfl)
  · exact .worked (by decide) _ rfl rfl rfl

/-- A send either asks for a destination that is no node, or names nodes only. -/
theorem send_case {board : CreditBoard} (hrefresh : path.refreshCredit spec credits = .ok board)
    (hopcode : instr.opcode = "send") :
    path.RunCase spec credits .ni instr cycle (path.send watch spec board instr cycle) := by
  unfold send
  cases hid : operandOf instr 0 with
  | error fault => exact .refused fault rfl rfl (.inr hrefresh)
  | ok id =>
      dsimp only
      cases hnegative : (instr.operands.drop 1).find? fun value => value < 0 with
      | some value => exact .refused _ rfl rfl (.inr hrefresh)
      | none =>
          have hnodes : ∀ value ∈ instr.operands.drop 1, 0 ≤ value := by
            intro value hvalue
            have hcheck := List.find?_eq_none.mp hnegative value hvalue
            simp only [decide_eq_true_eq] at hcheck
            omega
          cases hdests : sendDests spec.node (instr.operands.drop 1) with
          | nil =>
              exact .kept rfl hopcode id (operandOf_eq_ok hid) hnodes hdests rfl rfl hrefresh
          | cons dest dests =>
              dsimp only
              unfold sendTo Execution.after
              cases htensor : path.tensors.get? id with
              | none => exact .refused _ rfl rfl (.inr hrefresh)
              | some tensor =>
                  dsimp only
                  cases hopen : board.allOpen (dest :: dests) with
                  | error fault => exact .refused _ rfl rfl (.inr hrefresh)
                  | ok isOpen =>
                      cases isOpen with
                      | false => exact .waited rfl rfl rfl hrefresh
                      | true =>
                          dsimp only
                          unfold dispatch
                          cases hpaths : spec.paths tensor.id (dest :: dests) with
                          | error fault => exact .refused _ rfl rfl (.inr hrefresh)
                          | ok paths =>
                              rw [← hdests] at hopen hpaths
                              exact .sent rfl hopcode id (operandOf_eq_ok hid) hnodes tensor
                                htensor hopen paths hpaths rfl rfl hrefresh

theorem recv_case {board : CreditBoard} (hrefresh : path.refreshCredit spec credits = .ok board)
    (hopcode : instr.opcode = "recv") :
    path.RunCase spec credits .ni instr cycle (path.recv watch spec board instr cycle) := by
  unfold recv
  cases hid : operandOf instr 0 with
  | error fault => exact .refused fault rfl rfl (.inr hrefresh)
  | ok id =>
      dsimp only
      cases hfind : path.port.inbound.find? fun packet => packet.flow == id with
      | none => exact .waited rfl rfl rfl hrefresh
      | some packet =>
          exact .received rfl hopcode id (operandOf_eq_ok hid) packet hfind rfl rfl hrefresh

theorem runInterface_case :
    path.RunCase spec credits .ni instr cycle
      (path.runInterface watch spec credits instr cycle) := by
  unfold runInterface
  cases hrefresh : path.refreshCredit spec credits with
  | error fault => exact .refused _ rfl rfl (.inl rfl)
  | ok board =>
      dsimp only
      split
      · next hopcode => exact path.send_case watch spec credits instr cycle hrefresh hopcode
      · split
        · next hopcode => exact path.recv_case watch spec credits instr cycle hrefresh hopcode
        · exact .refused _ rfl rfl (.inr hrefresh)

/-- Every execution is one of the cases. -/
theorem run_case (unit : UnitName) :
    path.RunCase spec credits unit instr cycle
      (path.run watch spec credits unit instr cycle) := by
  cases unit with
  | bus => exact path.runBus_case watch spec credits instr cycle
  | cpu => exact path.runCpu_case watch spec credits instr cycle
  | acc => exact path.runAcc_case watch spec credits instr cycle
  | buffer => exact path.runBuffer_case watch spec credits instr cycle
  | ni => exact path.runInterface_case watch spec credits instr cycle

end Cases

/-! ## What every execution keeps -/

namespace RunCase

variable {spec : CoreSpec} {credits : CreditBoard} {path : Datapath} {unit : UnitName}
  {instr : Instruction} {cycle : Cycle} {e : Execution}

/-- An instruction that is not taken up changes nothing of the datapath. -/
theorem path_of_not_taken (h : path.RunCase spec credits unit instr cycle e)
    (hreply : isTaken e.reply = false) : e.path = path := by
  cases h with
  | refused fault _ hpath _ => exact hpath
  | waited _ _ hpath _ => exact hpath
  | worked _ doneAt hdone _ _ => rw [hdone] at hreply; simp at hreply
  | kept _ _ id _ _ _ hdone _ _ => rw [hdone] at hreply; simp at hreply
  | sent _ _ id _ _ tensor _ _ paths _ hdone _ _ => rw [hdone] at hreply; simp at hreply
  | received _ _ id _ packet _ hdone _ _ => rw [hdone] at hreply; simp at hreply

/-- While the own flag shows the arrived packets, no instruction changes the
credit of any node. -/
theorem credits_eq (h : path.RunCase spec credits unit instr cycle e)
    (hflag : credits.flags[spec.node]? = some (path.hasRoom spec)) : e.credits = credits := by
  have hrefresh : path.refreshCredit spec credits = .ok credits :=
    CreditBoard.set_of_getElem? hflag
  have heq : path.refreshCredit spec credits = .ok e.credits → e.credits = credits := by
    intro hcredits
    rw [hrefresh, Except.ok.injEq] at hcredits
    exact hcredits.symm
  cases h with
  | refused fault _ _ hcredits => exact hcredits.elim id heq
  | waited _ _ _ hcredits => exact heq hcredits
  | worked _ doneAt _ _ hcredits => exact hcredits
  | kept _ _ id _ _ _ _ _ hcredits => exact heq hcredits
  | sent _ _ id _ _ tensor _ _ paths _ _ _ hcredits => exact heq hcredits
  | received _ _ id _ packet _ _ _ hcredits => exact heq hcredits

/-- An execution changes no credit flag, but for the network interface, which may change
the flag of its own node. -/
theorem credits_frame (h : path.RunCase spec credits unit instr cycle e) :
    e.credits.size = credits.size ∧
      ∀ node, node ≠ spec.node → e.credits.flags[node]? = credits.flags[node]? := by
  cases h with
  | refused _ _ _ hcredits =>
      rcases hcredits with hsame | hrefresh
      · rw [hsame]
        exact ⟨rfl, fun _ _ => rfl⟩
      · exact CreditBoard.set_frame hrefresh
  | waited _ _ _ hcredits => exact CreditBoard.set_frame hcredits
  | worked _ _ _ _ hcredits => rw [hcredits]; exact ⟨rfl, fun _ _ => rfl⟩
  | kept _ _ _ _ _ _ _ _ hcredits => exact CreditBoard.set_frame hcredits
  | sent _ _ _ _ _ _ _ _ _ _ _ _ hcredits => exact CreditBoard.set_frame hcredits
  | received _ _ _ _ _ _ _ _ hcredits => exact CreditBoard.set_frame hcredits

end RunCase

/-! ## Replies and the clock -/

section Replies

variable {watch other : Watch} {spec : CoreSpec} {credits : CreditBoard} {path : Datapath}
  {unit : UnitName} {instr : Instruction} {cycle earlier : Cycle}

theorem isTaken_runBus :
    isTaken (path.runBus watch spec credits instr cycle).reply =
      isTaken (path.runBus other spec credits instr earlier).reply := by
  unfold runBus
  cases spec.costOf .bus instr <;> rfl

theorem sleepEnd_isOk_of_le {doneAt : Cycle} (h : sleepEnd instr cycle = .ok doneAt)
    (hle : earlier ≤ cycle) : ∃ before, sleepEnd instr earlier = .ok before := by
  unfold sleepEnd at h ⊢
  cases hoperand : operandOf instr 0 with
  | error fault => rw [hoperand] at h; simp at h
  | ok cycles =>
      rw [hoperand] at h
      dsimp only at h ⊢
      split at h
      · simp at h
      · next hnonneg =>
          split at h
          · simp at h
          · next hfits =>
              have hsum : earlier + cycles.toNat ≤ cycle + cycles.toNat :=
                Nat.add_le_add_right hle _
              have hbefore : ¬ lastCycle < earlier + cycles.toNat :=
                Nat.not_lt.mpr (Nat.le_trans hsum (Nat.not_lt.mp hfits))
              rw [if_neg hnonneg, if_neg hbefore]
              exact ⟨_, rfl⟩

theorem isTaken_runCpu (h : isTaken (path.runCpu watch spec credits instr cycle).reply = true)
    (hle : earlier ≤ cycle) :
    isTaken (path.runCpu other spec credits instr earlier).reply = true := by
  unfold runCpu at h ⊢
  cases hcost : spec.costOf .cpu instr with
  | error fault => rw [hcost] at h; exact h
  | ok cost =>
      rw [hcost] at h
      dsimp only at h ⊢
      split at h
      · next hopcode =>
          rw [if_pos hopcode]
          cases hplan : reshapePlan path.tensors instr with
          | mk plan tensors =>
              cases plan with
              | error fault => rw [hplan] at h; exact h
              | ok plan => rfl
      · next hreshape =>
          rw [if_neg hreshape]
          split at h
          · next hopcode => rw [if_pos hopcode]; rfl
          · next hpoll =>
              rw [if_neg hpoll]
              split at h
              · next hopcode =>
                  rw [if_pos hopcode]
                  cases hend : sleepEnd instr cycle with
                  | error fault => rw [hend] at h; simp [Execution.refused] at h
                  | ok doneAt =>
                      obtain ⟨before, hbefore⟩ := sleepEnd_isOk_of_le hend hle
                      rw [hbefore]
                      rfl
              · simp [Execution.refused] at h

theorem isTaken_runAcc :
    isTaken (path.runAcc watch spec credits instr cycle).reply =
      isTaken (path.runAcc other spec credits instr earlier).reply := by
  unfold runAcc
  obtain ⟨plan, tensors⟩ := accPlan spec path.tensors instr
  cases plan <;> rfl

theorem isTaken_runBuffer :
    isTaken (path.runBuffer watch spec credits instr cycle).reply =
      isTaken (path.runBuffer other spec credits instr earlier).reply := by
  unfold runBuffer
  cases bufferPlan spec path.tensors instr <;> rfl

/-- Whether the network interface is ready for an instruction depends neither on
the clock nor on what is told. -/
theorem readiness_dispatch (tensor : Tensor) (dests : List Node) :
    (path.dispatch watch spec credits tensor dests cycle).reply.map isReady =
      (path.dispatch other spec credits tensor dests earlier).reply.map isReady := by
  unfold dispatch
  cases spec.paths tensor.id dests <;> rfl

theorem readiness_sendTo (id : TensorId) (dests : List Node) :
    (path.sendTo watch spec credits instr id dests cycle).reply.map isReady =
      (path.sendTo other spec credits instr id dests earlier).reply.map isReady := by
  unfold sendTo
  cases path.tensors.get? id with
  | none => rfl
  | some tensor =>
      dsimp only
      cases credits.allOpen dests with
      | error fault => rfl
      | ok isOpen =>
          cases isOpen with
          | false => rfl
          | true => exact readiness_dispatch tensor dests

theorem readiness_send :
    (path.send watch spec credits instr cycle).reply.map isReady =
      (path.send other spec credits instr earlier).reply.map isReady := by
  unfold send
  cases operandOf instr 0 with
  | error fault => rfl
  | ok id =>
      dsimp only
      cases (instr.operands.drop 1).find? fun value => value < 0 with
      | some value => rfl
      | none =>
          cases sendDests spec.node (instr.operands.drop 1) with
          | nil => rfl
          | cons dest dests => exact readiness_sendTo id (dest :: dests)

theorem readiness_recv :
    (path.recv watch spec credits instr cycle).reply.map isReady =
      (path.recv other spec credits instr earlier).reply.map isReady := by
  unfold recv
  cases operandOf instr 0 with
  | error fault => rfl
  | ok id =>
      dsimp only
      cases path.port.inbound.find? fun packet => packet.flow == id <;> rfl

theorem readiness_runInterface :
    (path.runInterface watch spec credits instr cycle).reply.map isReady =
      (path.runInterface other spec credits instr earlier).reply.map isReady := by
  unfold runInterface
  cases path.refreshCredit spec credits with
  | error fault => rfl
  | ok board =>
      dsimp only
      split
      · exact readiness_send
      · split
        · exact readiness_recv
        · rfl

theorem isTaken_eq_readiness {ε : Type} (reply : Except ε Outcome) :
    isTaken reply = (reply.map isReady).toOption.getD false := by
  cases reply with
  | error fault => rfl
  | ok outcome => cases outcome <;> rfl

/-- An instruction that is taken up at a cycle is taken up at every earlier
cycle. -/
theorem isTaken_run_of_le
    (h : isTaken (path.run watch spec credits unit instr cycle).reply = true)
    (hle : earlier ≤ cycle) :
    isTaken (path.run other spec credits unit instr earlier).reply = true := by
  cases unit with
  | bus => exact isTaken_runBus.symm.trans h
  | cpu => exact isTaken_runCpu h hle
  | acc => exact isTaken_runAcc.symm.trans h
  | buffer => exact isTaken_runBuffer.symm.trans h
  | ni =>
      unfold run at h ⊢
      have hsame : (path.runInterface watch spec credits instr cycle).reply.map isReady =
          (path.runInterface other spec credits instr earlier).reply.map isReady :=
        readiness_runInterface
      rw [isTaken_eq_readiness] at h ⊢
      rw [← hsame]
      exact h

/-- An instruction that has to wait at a cycle has to wait at every cycle. -/
theorem run_waits (h : (path.run watch spec credits unit instr cycle).reply = .ok .notYet) :
    (path.run other spec credits unit instr earlier).reply = .ok .notYet := by
  -- Only the network interface makes an instruction wait.
  have hunit : unit = .ni := by
    cases path.run_case watch spec credits instr cycle unit with
    | waited hunit _ _ _ => exact hunit
    | refused fault hreply _ _ => rw [h] at hreply; simp at hreply
    | worked _ doneAt hreply _ _ => rw [h] at hreply; simp at hreply
    | kept hunit _ _ _ _ _ _ _ _ => exact hunit
    | sent hunit _ _ _ _ _ _ _ _ _ _ _ _ => exact hunit
    | received hunit _ _ _ _ _ _ _ _ => exact hunit
  subst hunit
  unfold run at h ⊢
  have hready : (path.runInterface other spec credits instr earlier).reply.map isReady =
      .ok false := by
    have hsame : (path.runInterface watch spec credits instr cycle).reply.map isReady =
        (path.runInterface other spec credits instr earlier).reply.map isReady :=
      readiness_runInterface
    rw [← hsame, h]
    rfl
  cases hreply : (path.runInterface other spec credits instr earlier).reply with
  | error fault => rw [hreply] at hready; simp [Except.map] at hready
  | ok outcome =>
      rw [hreply] at hready
      cases outcome with
      | complete doneAt => simp [Except.map, isReady] at hready
      | notYet => rfl

end Replies

end Datapath

end CoreArray
