import CoreArray.Proofs.Task.Lowered
import CoreArray.Proofs.Datapath.Refusals
import CoreArray.Proofs.Core.Past
set_option autoImplicit false

/-!
# Compiled tasks do not fault (SPEC §4.1, §7)

A task that has been compiled, without assembled instructions and with destinations
that exist, runs on a core with the usual latencies without a fault, however often and
under whatever credit the core ticks, and whatever packets arrive.  What may still fail
is said by `Fails`: a calculation whose configuration does not fit the shapes of its
tensors, and a sleep beyond the end of the clock.

The instructions left on the tracks are lowered ones, and every tensor to be sent is
known; every tick keeps that (`IsCompiled.tick`), for the tensor table only grows
(`Datapath.contains_run`).  So what fails at a tick is found by going through the lowered
instructions (`fails_of_handing`).
-/

namespace CoreArray

/-! ## A tick of a compiled task -/

namespace Core

variable {watch : Watch} {core : Core} {credits : CreditBoard} {cycle : Cycle} {tick : Tick}

/-- An instruction is refused by the unit that it names. -/
theorem refused_of_handing {instr : Instruction} {unit : UnitName} {fault : TickFault}
    (hunit : UnitName.ofText? instr.unit = some unit)
    (h : (core.handing watch credits cycle instr).reply = .error fault) :
    ∃ reason, fault = .exec reason ∧
      (core.path.run watch core.spec credits unit instr cycle).reply = .error reason := by
  unfold handing at h
  rw [hunit] at h
  obtain ⟨reason, hreply, rfl⟩ := error_of_mapError h
  exact ⟨reason, rfl, hreply⟩

/-- No tick makes a core forget a tensor. -/
theorem TickCase.contains_tensors (h : core.TickCase watch credits cycle tick) {id : TensorId}
    (hknown : core.path.tensors.contains id = true) :
    tick.core.path.tensors.contains id = true := by
  cases h with
  | idle _ _ hpath _ _ _ => rw [hpath, hknown]
  | turned _ index track _ hturn =>
      cases hturn with
      | drained _ _ hpath _ _ _ => rw [hpath, hknown]
      | tried instr _ _ hpath _ _ _ =>
          rw [hpath]
          unfold handing
          split
          · exact hknown
          · next unit _ => exact Datapath.contains_run hknown unit

end Core

namespace Task

/-- What may fail at a tick of a compiled task. -/
inductive Fails (source : Source) (entry : PastTick) : TickFault → Prop
  /-- The configuration of an operator does not fit the shapes of its tensors. -/
  | shape (op : ComputeOp) (hop : .compute op ∈ source.operators) (config : String)
      (hconfig : op.config = some config) (output : TensorId) (reason : Contraction.Fault)
      (hreason : (Contraction.ofConfig entry.before.path.tensors config output op.inputs).1 =
        .error reason) :
      Fails source entry
        (.exec (.contraction (Lowering.calculate (some config) output op.inputs) reason))
  /-- A sleep would end after the last cycle of the clock. -/
  | clock (cycles : Int) (hlate : lastCycle < entry.cycle + cycles.toNat) :
      Fails source entry (.exec (.clockOverflow (Lowering.sleep cycles) entry.cycle))

/-- A core with what is left of a task compiled from a source. -/
structure IsCompiled (source : Source) (core : Core) : Prop where
  lowered : ∀ track ∈ core.tracks, ∀ instr ∈ track.instructions, Lowered source instr
  known : ∀ (id : TensorId) (dests : List Node), source.dests[id]? = some dests →
    core.path.tensors.contains id = true

variable {source : Source} {core : Core} {watch : Watch} {credits : CreditBoard} {cycle : Cycle}

theorem IsCompiled.tick {tick : Tick} (h : IsCompiled source core)
    (hcase : core.TickCase watch credits cycle tick) : IsCompiled source tick.core := by
  refine ⟨fun track hmem instr hinstr => ?_, fun id dests hdests => ?_⟩
  · obtain ⟨before, hbefore, hold⟩ := hcase.exists_instruction hmem hinstr
    exact h.lowered before hbefore instr hold
  · exact hcase.contains_tensors (h.known id dests hdests)

/-- Of the lowered instructions only a calculation and a sleep may be refused. -/
theorem fails_of_handing {nodes : Nat} {instr : Instruction} {tick : Tick} {fault : TickFault}
    (h : IsCompiled source core) (hspec : core.spec.IsStandard nodes) (hnodes : nodes ≤ 2 ^ 63)
    (hdests : ∀ (id : TensorId) (dests : List Node), source.dests[id]? = some dests →
      ∀ dest ∈ dests, dest < nodes)
    (hsize : credits.size = nodes) (hinstr : Lowered source instr)
    (hfault : (core.handing watch credits cycle instr).reply = .error fault) :
    Fails source ⟨core, credits, cycle, tick⟩ fault := by
  -- An instruction that is answered is not refused.
  have hanswered {reason : ExecFault} {reply : Except ExecFault Outcome}
      (hok : ∃ outcome, reply = .ok outcome) (hrefused : reply = .error reason) : False := by
    obtain ⟨outcome, hok⟩ := hok
    rw [hok] at hrefused
    simp at hrefused
  have hnode := hspec.node_lt
  cases hinstr with
  | recv id =>
      obtain ⟨reason, -, hrun⟩ := Core.refused_of_handing (UnitName.ofText?_text .ni) hfault
      exact (hanswered (Datapath.exists_recv (hsize ▸ hnode)) hrun).elim
  | trans id =>
      obtain ⟨reason, -, hrun⟩ := Core.refused_of_handing (UnitName.ofText?_text .bus) hfault
      exact (hanswered (Datapath.exists_runBus hspec.trans) hrun).elim
  | read id =>
      obtain ⟨reason, -, hrun⟩ := Core.refused_of_handing (UnitName.ofText?_text .buffer) hfault
      exact (hanswered (Datapath.exists_runBuffer hspec.read) hrun).elim
  | write id =>
      obtain ⟨reason, -, hrun⟩ := Core.refused_of_handing (UnitName.ofText?_text .buffer) hfault
      exact (hanswered (Datapath.exists_runBuffer hspec.write) hrun).elim
  | send id dests hdeclared =>
      obtain ⟨reason, -, hrun⟩ := Core.refused_of_handing (UnitName.ofText?_text .ni) hfault
      have hbelow := hdests id dests hdeclared
      have hknown := h.known id dests hdeclared
      exact (hanswered
        (Datapath.exists_send hspec.delivery hnode hsize hnodes hknown hbelow) hrun).elim
  | sleep cycles hcycles =>
      obtain ⟨reason, rfl, hrun⟩ := Core.refused_of_handing (UnitName.ofText?_text .cpu) hfault
      obtain ⟨rfl, hlate⟩ := Datapath.of_sleep_refused hspec.sleep hcycles hrun
      exact .clock cycles hlate
  | calculate op hop config hconfig output =>
      obtain ⟨reason, rfl, hrun⟩ := Core.refused_of_handing (UnitName.ofText?_text .acc) hfault
      obtain ⟨shape, hshape, rfl⟩ := Datapath.of_calculate_refused hspec.calculate hrun
      exact .shape op hop config hconfig output shape hshape

/-! ## Every tick of a compiled task -/

theorem isCompiled_of_past {spec : CoreSpec} {task : Task} {seed : Nat} {past : List PastTick}
    (hlowered : ∀ track ∈ task.tracks, ∀ instr ∈ track, Lowered source instr)
    (hknown : ∀ (id : TensorId) (dests : List Node), source.dests[id]? = some dests →
      task.tensors.contains id = true)
    (h : Past (Core.ofTracks spec task.tracks task.tensors seed) past core) :
    IsCompiled source core := by
  induction h with
  | start =>
      refine ⟨fun track hmem instr hinstr => ?_, hknown⟩
      obtain ⟨instrs, hinstrs, rfl⟩ := List.mem_map.mp hmem
      exact hlowered instrs hinstrs instr hinstr
  | tick _ arbiter watch credits cycle ih =>
      exact ih.tick (Core.tickWith_case arbiter watch _ credits cycle)
  | exchange _ port ih => exact ⟨ih.lowered, ih.known⟩

theorem attempt_of_error {tick : Tick} {fault : TickFault} (h : tick.result = .error fault) :
    ∃ attempt, tick.attempt = some attempt ∧ attempt.reply = .error fault := by
  unfold Tick.result at h
  split at h
  · next index instr refusal hattempt =>
      refine ⟨_, hattempt, ?_⟩
      rw [Except.error.inj h]
  · simp at h

/-- A compiled task without assembled instructions, whose destinations exist, does not
fault on a core with the usual latencies: whatever arrives and whatever the credit shows,
a tick fails only at a calculation that does not fit the shapes of its tensors or at a
sleep beyond the end of the clock.  Without configurations only the latter is left. -/
theorem compiled_task_faults {text : String} {source : Source} {task : Task} {spec : CoreSpec}
    {nodes seed : Nat} {past : List PastTick} {core : Core}
    (hread : Source.read text = .ok source) (hcompile : compile text = .ok task)
    (hassembly : ∀ op ∈ source.operators, op.isAssembly = false)
    (hdests : ∀ pair ∈ source.dests.toList, ∀ dest ∈ pair.2, dest < nodes)
    (hnodes : nodes ≤ 2 ^ 63) (hspec : spec.IsStandard nodes)
    (hpast : Past (Core.ofTracks spec task.tracks task.tensors seed) past core)
    (hcredits : ∀ entry ∈ past, entry.credits.size = nodes) :
    ∀ entry ∈ past, ∀ fault, entry.tick.result = .error fault →
      Fails source entry fault ∧
        ((∀ op ∈ source.operators, op.isPlain = true) →
          ∃ cycles, fault = .exec (.clockOverflow (Lowering.sleep cycles) entry.cycle)) := by
  intro entry hmem fault hfault
  obtain ⟨hlowered, hknown⟩ := lowered_of_compile hread hcompile hassembly
  obtain ⟨⟨earlier, hbefore⟩, watch, hcase⟩ := hpast.of_mem hmem
  have hcompiled := isCompiled_of_past hlowered hknown hbefore
  have hsame : entry.before.spec = spec := hbefore.spec_eq
  have hbelow (id : TensorId) (dests : List Node) (hdeclared : source.dests[id]? = some dests) :
      ∀ dest ∈ dests, dest < nodes :=
    hdests (id, dests) (Std.ExtTreeMap.mem_toList_iff_getElem?_eq_some.mpr hdeclared)
  -- What failed is the instruction at the head of a track.
  obtain ⟨attempt, hattempt, hrefused⟩ := attempt_of_error hfault
  obtain ⟨track, hchosen, hhead, hreply, -⟩ := hcase.of_attempt hattempt
  have hinstr : attempt.instr ∈ track.instructions := by
    obtain ⟨rest, hinstrs⟩ := Track.mem_of_head? hhead
    have hleft : attempt.instr ∈ (Core.afterRetiring track).instructions := by
      rw [hinstrs]
      exact List.mem_cons_self
    exact Core.mem_of_mem_afterRetiring hleft
  have hlow := hcompiled.lowered track (List.mem_of_getElem? hchosen.get) _ hinstr
  have hfails : Fails source entry fault :=
    fails_of_handing hcompiled (hsame ▸ hspec) hnodes hbelow (hcredits entry hmem) hlow
      (hreply.symm.trans hrefused)
  refine ⟨hfails, fun hplain => ?_⟩
  cases hfails with
  | shape op hop config hconfig output reason _ =>
      have hnone := Option.isNone_iff_eq_none.mp (hplain _ hop)
      rw [hconfig] at hnone
      simp at hnone
  | clock cycles _ => exact ⟨cycles, rfl⟩

/-- A task that sends one tensor, sleeps, and then makes another one. -/
def senderText : String :=
  "operators:\nmanipulate #5#1#1\ncompute ##2#3\ndata:\n1#1#4\n2#0,1\n"

def senderSource : Source := (Source.read senderText).toOption.getD .empty

def senderTask : Task := (compile senderText).toOption.getD ⟨[], .empty⟩

/-- A core for such a task, one of two. -/
def senderSpec : CoreSpec :=
  { (default : CoreSpec) with
    channelWidth := 1
    delivery := .unicast
    latencies := ((((LatencyTable.empty.set .bus "trans" (.ofNat 1)).set .cpu "sleep" (.ofNat 1)).set
      .buffer "read" (.ofNat 1)).set .buffer "write" (.ofNat 1)).set .acc "cal" (.ofNat 1) }

theorem senderSpec_isStandard : senderSpec.IsStandard 2 where
  check := rfl
  delivery := rfl
  trans := by decide +kernel
  sleep := by decide +kernel
  read := by decide +kernel
  write := by decide +kernel
  calculate := by decide +kernel

/-- The task at the first and at the last cycle of the clock. -/
def senderTicks : List PastTick × Core :=
  (Core.ofTracks senderSpec senderTask.tracks senderTask.tensors 0).pastTicks .seeded .silent
    (.allOpened 2) [lastCycle, 0]

/-- Its first sleep does not fit the clock, and nothing else fails. -/
theorem sender_sleep_fails_at_last_cycle :
    (senderTicks.1.map fun entry => entry.tick.result.isOk) = [false, true] ∧
      ∀ entry ∈ senderTicks.1, ∀ fault, entry.tick.result = .error fault →
        ∃ cycles, fault = .exec (.clockOverflow (Lowering.sleep cycles) entry.cycle) := by
  have hfacts :
      (Source.read senderText).isOk = true ∧ (compile senderText).isOk = true ∧
      (∀ op ∈ senderSource.operators, op.isAssembly = false) ∧
      (∀ op ∈ senderSource.operators, op.isPlain = true) ∧
      (∀ pair ∈ senderSource.dests.toList, ∀ dest ∈ pair.2, dest < 2) ∧
      (∀ entry ∈ senderTicks.1, entry.credits.size = 2) ∧
      (senderTicks.1.map fun entry => entry.tick.result.isOk) = [false, true] := by
    decide +kernel
  obtain ⟨hread, hcompile, hassembly, hplain, hdests, hcredits, hresults⟩ := hfacts
  refine ⟨hresults, fun entry hmem fault hfault => ?_⟩
  have hsource : Source.read senderText = .ok senderSource := eq_ok_getD hread .empty
  have htask : compile senderText = .ok senderTask := eq_ok_getD hcompile ⟨[], .empty⟩
  exact (compiled_task_faults hsource htask hassembly hdests (by decide) senderSpec_isStandard
    (past_pastTicks _ _ _ _ _) hcredits entry hmem fault hfault).2 hplain

end Task

end CoreArray
