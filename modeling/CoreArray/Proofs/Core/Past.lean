import CoreArray.Proofs.Core.Progress
set_option autoImplicit false

/-!
# The past of a core (SPEC §4.5)

A core ticks at any cycles, under any arbiter and any credit, and between two ticks
the network may change the packets of its port.  `Past` keeps the ticks behind a
core.  What a tick does is read off track by track: `TrackCase` lists what may become
of one of them, and `TickCase.track_case` says that there is nothing else.
-/

namespace CoreArray

namespace Tick

/-- The instruction that leaves a track at a tick, if one does. -/
def retiredOn (tick : Tick) (index : Nat) : Option Instruction :=
  tick.retired.bind fun (place, instr) => if place = index then some instr else none

/-- What a tick tries on a track, if it tries anything there. -/
def attemptOn (tick : Tick) (index : Nat) : Option Attempt :=
  tick.attempt.filter fun attempt => attempt.track == index

/-- Whether a track has its turn at a tick: an instruction leaves it or is tried. -/
def isTurnOf (tick : Tick) (index : Nat) : Bool :=
  (tick.retiredOn index).isSome || (tick.attemptOn index).isSome

end Tick

/-- The instruction that a unit takes up, with the cycle of its completion. -/
def Attempt.issue? (attempt : Attempt) : Option (Instruction × Cycle) :=
  match attempt.reply with
  | .ok (.complete doneAt) => some (attempt.instr, doneAt)
  | _ => none

/-- The instruction of a track that is taken up at a tick, with the cycle of its
completion. -/
def Tick.issuedOn (tick : Tick) (index : Nat) : Option (Instruction × Cycle) :=
  (tick.attemptOn index).bind Attempt.issue?

/-- A tick of the past: the core as it was, the credit that it saw, the cycle, and what
came of it. -/
structure PastTick where
  before : Core
  credits : CreditBoard
  cycle : Cycle
  tick : Tick

/-- The ticks that lead from one core to another, the last one first.  Between two
ticks the port may become any other. -/
inductive Past (start : Core) : List PastTick → Core → Prop
  | start : Past start [] start
  | tick {past : List PastTick} {core : Core} (h : Past start past core) (arbiter : Arbiter)
      (watch : Watch) (credits : CreditBoard) (cycle : Cycle) :
      Past start
        (⟨core, credits, cycle, core.tickWith arbiter watch credits cycle⟩ :: past)
        (core.tickWith arbiter watch credits cycle).core
  | exchange {past : List PastTick} {core : Core} (h : Past start past core) (port : Port) :
      Past start past { core with path := { core.path with port } }

/-- The instructions that have left a track, in their order, each with the cycle at
which it left. -/
def retiredOn (past : List PastTick) (index : Nat) : List (Instruction × Cycle) :=
  past.reverse.flatMap fun entry =>
    ((entry.tick.retiredOn index).map fun instr => (instr, entry.cycle)).toList

/-- The instructions of a track that units have taken up, in their order, each with the
cycle of its completion. -/
def issuedOn (past : List PastTick) (index : Nat) : List (Instruction × Cycle) :=
  past.reverse.flatMap fun entry => (entry.tick.issuedOn index).toList

/-- What a tick tries on a track is what it tries. -/
theorem Tick.attempt_of_attemptOn {tick : Tick} {index : Nat} {attempt : Attempt}
    (h : tick.attemptOn index = some attempt) :
    tick.attempt = some attempt ∧ attempt.track = index := by
  obtain ⟨hattempt, htrack⟩ := Option.filter_eq_some_iff.mp h
  exact ⟨hattempt, eq_of_beq htrack⟩

/-- A tick that succeeds tries nothing that is refused. -/
theorem Tick.reply_of_ok {tick : Tick} {attempt : Attempt} (hok : tick.result = .ok ())
    (hattempt : tick.attempt = some attempt) : ∃ outcome, attempt.reply = .ok outcome := by
  obtain ⟨index, instr, reply⟩ := attempt
  cases reply with
  | ok outcome => exact ⟨outcome, rfl⟩
  | error fault => rw [result, hattempt] at hok; simp at hok

theorem retiredOn_cons (entry : PastTick) (past : List PastTick) (index : Nat) :
    retiredOn (entry :: past) index = retiredOn past index ++
      ((entry.tick.retiredOn index).map fun instr => (instr, entry.cycle)).toList := by
  unfold retiredOn
  rw [List.reverse_cons, List.flatMap_append, List.flatMap_singleton]

theorem issuedOn_cons (entry : PastTick) (past : List PastTick) (index : Nat) :
    issuedOn (entry :: past) index =
      issuedOn past index ++ (entry.tick.issuedOn index).toList := by
  unfold issuedOn
  rw [List.reverse_cons, List.flatMap_append, List.flatMap_singleton]

namespace Core

/-! ## One track at a tick -/

/-- What may become of the track at a place at a tick. -/
inductive TrackCase (cycle : Cycle) (index : Nat) (track : Track) (tick : Tick)
    (after : Track) : Prop
  /-- It is not its turn. -/
  | passed (hafter : after = track) (hretired : tick.retiredOn index = none)
      (hattempt : tick.attemptOn index = none)
  /-- Its last instruction leaves it. -/
  | drained (hready : track.isReady cycle = true) (hempty : (afterRetiring track).head? = none)
      (hafter : after = afterRetiring track) (hretired : tick.retiredOn index = retiring? track)
      (hattempt : tick.attemptOn index = none)
  /-- An instruction is tried, perhaps after another has left. -/
  | tried (hready : track.isReady cycle = true) (instr : Instruction)
      (reply : Except TickFault Outcome) (hhead : (afterRetiring track).head? = some instr)
      (hafter : after = (afterRetiring track).answered reply)
      (hretired : tick.retiredOn index = retiring? track)
      (hattempt : tick.attemptOn index = some ⟨index, instr, reply⟩)

section Ticks

variable {watch : Watch} {core : Core} {credits : CreditBoard} {cycle : Cycle} {tick : Tick}

/-- Only the track whose turn it is loses an instruction. -/
theorem TurnCase.retiredOn {place : Nat} {track : Track}
    (h : core.TurnCase watch credits cycle place track tick) (index : Nat) :
    tick.retiredOn index = if place = index then retiring? track else none := by
  have hretired : tick.retired = (retiring? track).map fun instr => (place, instr) := by
    cases h with
    | drained _ _ _ _ hretired _ => exact hretired
    | tried instr _ _ _ _ hretired _ => exact hretired
  unfold Tick.retiredOn
  rw [hretired]
  cases retiring? track with
  | none => simp
  | some instr => rfl

theorem TickCase.track_case (h : core.TickCase watch credits cycle tick) {index : Nat}
    {track : Track} (hget : core.tracks[index]? = some track) :
    ∃ after, tick.core.tracks[index]? = some after ∧
      TrackCase cycle index track tick after := by
  cases h with
  | idle _ htracks _ _ hretired hattempt =>
      refine ⟨track, by rw [htracks, hget], .passed rfl ?_ ?_⟩
      · rw [Tick.retiredOn, hretired]
        rfl
      · rw [Tick.attemptOn, hattempt]
        rfl
  | turned _ place chosen hchosen hturn =>
      have hretired := hturn.retiredOn index
      obtain ⟨hlt, -⟩ := List.getElem?_eq_some_iff.mp hchosen.get
      by_cases hplace : place = index
      · -- The track has its turn.
        subst hplace
        have hsame : track = chosen := Option.some.inj (hget.symm.trans hchosen.get)
        subst hsame
        rw [if_pos rfl] at hretired
        cases hturn with
        | drained hempty htracks _ _ _ hattempt =>
            refine ⟨_, by rw [htracks, List.getElem?_set_self hlt],
              .drained hchosen.ready hempty rfl hretired ?_⟩
            rw [Tick.attemptOn, hattempt]
            rfl
        | tried instr hhead htracks _ _ _ hattempt =>
            refine ⟨_, by rw [htracks, List.getElem?_set_self hlt],
              .tried hchosen.ready instr _ hhead rfl hretired ?_⟩
            rw [Tick.attemptOn, hattempt]
            simp
      · rw [if_neg hplace] at hretired
        cases hturn with
        | drained hempty htracks _ _ _ hattempt =>
            refine ⟨track, by rw [htracks, List.getElem?_set_ne hplace, hget],
              .passed rfl hretired ?_⟩
            rw [Tick.attemptOn, hattempt]
            rfl
        | tried instr hhead htracks _ _ _ hattempt =>
            refine ⟨track, by rw [htracks, List.getElem?_set_ne hplace, hget],
              .passed rfl hretired ?_⟩
            rw [Tick.attemptOn, hattempt]
            simp [hplace]

/-- Tracks neither come nor go. -/
theorem TickCase.length_tracks (h : core.TickCase watch credits cycle tick) :
    tick.core.tracks.length = core.tracks.length := by
  cases h with
  | idle _ htracks _ _ _ _ => rw [htracks]
  | turned _ place chosen _ hturn =>
      cases hturn with
      | drained _ htracks _ _ _ _ => rw [htracks, List.length_set]
      | tried _ _ htracks _ _ _ _ => rw [htracks, List.length_set]

theorem mem_of_mem_afterRetiring {track : Track} {instr : Instruction}
    (h : instr ∈ (afterRetiring track).instructions) : instr ∈ track.instructions := by
  unfold afterRetiring at h
  split at h
  · exact List.mem_of_mem_tail h
  · exact h

/-- The instructions on the tracks after a tick were on them before. -/
theorem TickCase.exists_instruction (h : core.TickCase watch credits cycle tick) {track : Track}
    (hmem : track ∈ tick.core.tracks) {instr : Instruction} (hinstr : instr ∈ track.instructions) :
    ∃ before ∈ core.tracks, instr ∈ before.instructions := by
  cases h with
  | idle _ htracks _ _ _ _ =>
      rw [htracks] at hmem
      exact ⟨track, hmem, hinstr⟩
  | turned _ index chosen hchosen hturn =>
      have hold := List.mem_of_getElem? hchosen.get
      cases hturn with
      | drained _ htracks _ _ _ _ =>
          rw [htracks] at hmem
          rcases List.mem_or_eq_of_mem_set hmem with hmem | rfl
          · exact ⟨track, hmem, hinstr⟩
          · exact ⟨chosen, hold, mem_of_mem_afterRetiring hinstr⟩
      | tried instr _ htracks _ _ _ _ =>
          rw [htracks] at hmem
          rcases List.mem_or_eq_of_mem_set hmem with hmem | rfl
          · exact ⟨track, hmem, hinstr⟩
          · rw [Track.instructions_answered] at hinstr
            exact ⟨chosen, hold, mem_of_mem_afterRetiring hinstr⟩

/-- What is tried at a tick is the instruction that heads the chosen track. -/
theorem TickCase.of_attempt (h : core.TickCase watch credits cycle tick) {attempt : Attempt}
    (hattempt : tick.attempt = some attempt) :
    ∃ track, core.Chosen cycle attempt.track track ∧
      (afterRetiring track).head? = some attempt.instr ∧
      attempt.reply = (core.handing watch credits cycle attempt.instr).reply ∧
      tick.core.tracks[attempt.track]? = some ((afterRetiring track).answered attempt.reply) := by
  cases h with
  | idle _ _ _ _ _ hnone => rw [hattempt] at hnone; simp at hnone
  | turned _ place track hchosen hturn =>
      cases hturn with
      | drained _ _ _ _ _ hnone => rw [hattempt] at hnone; simp at hnone
      | tried instr hhead htracks _ _ _ htried =>
          have heq := Option.some.inj (hattempt.symm.trans htried)
          subst heq
          obtain ⟨hlt, -⟩ := List.getElem?_eq_some_iff.mp hchosen.get
          exact ⟨track, hchosen, hhead, rfl, by rw [htracks, List.getElem?_set_self hlt]⟩

/-- At a tick of a core that is neither finished nor busy exactly one track has its
turn. -/
theorem TickCase.exists_turn (h : core.TickCase watch credits cycle tick)
    (hfinished : core.isFinished cycle = false) (hbusy : core.isBusy cycle = false) :
    ∃ index, ∀ other, tick.isTurnOf other = true ↔ other = index := by
  cases h with
  | idle hidle _ _ _ _ _ => simp [hfinished, hbusy] at hidle
  | turned _ place track hchosen hturn =>
      refine ⟨place, fun other => ?_⟩
      unfold Tick.isTurnOf
      rw [hturn.retiredOn other]
      have hnonempty := (Track.isReady_iff.mp hchosen.ready).1
      cases hturn with
      | drained hempty _ _ _ _ hattempt =>
          -- A track from which nothing leaves has an instruction to try.
          have hset : track.marker.isSet = true := by
            cases hmarker : track.marker.isSet with
            | true => rfl
            | false =>
                obtain ⟨instr, hhead⟩ := Track.exists_head? hnonempty
                rw [afterRetiring_of_unset hmarker, hhead] at hempty
                simp at hempty
          have hsome := (retiring?_isSome hnonempty).trans hset
          rw [Tick.attemptOn, hattempt]
          by_cases hplace : place = other
          · simp [hplace, hsome]
          · simp [hplace, eq_comm (a := other)]
      | tried instr _ _ _ _ _ hattempt =>
          rw [Tick.attemptOn, hattempt]
          by_cases hplace : place = other
          · simp [hplace]
          · simp [hplace, eq_comm (a := other)]

end Ticks

end Core

/-! ## Pasts -/

namespace Past

open CoreArray.Core

variable {start core : Core} {past : List PastTick}

/-- What never changes of a core never changes. -/
theorem spec_eq (h : Past start past core) : core.spec = start.spec := by
  induction h with
  | start => rfl
  | tick _ arbiter watch credits cycle ih =>
      exact (tickWith_spec arbiter watch _ credits cycle).trans ih
  | exchange _ port ih => exact ih

/-- What is behind a core is the past of the core at each tick. -/
theorem of_append {later : List PastTick} {entry : PastTick}
    (h : Past start (later ++ entry :: past) core) :
    Past start past entry.before ∧ Past start (entry :: past) entry.tick.core ∧
      ∃ watch, entry.before.TickCase watch entry.credits entry.cycle entry.tick := by
  generalize hwhole : later ++ entry :: past = whole at h
  induction h generalizing later with
  | start => simp at hwhole
  | tick hpast arbiter watch credits cycle ih =>
      cases later with
      | nil =>
          rw [List.nil_append, List.cons.injEq] at hwhole
          obtain ⟨rfl, rfl⟩ := hwhole
          exact ⟨hpast, hpast.tick arbiter watch credits cycle, watch,
            tickWith_case arbiter watch _ credits cycle⟩
      | cons last later =>
          rw [List.cons_append, List.cons.injEq] at hwhole
          exact ih hwhole.2
  | exchange _ port ih => exact ih hwhole

/-- Every tick of the past is a tick of the core that was. -/
theorem of_mem (h : Past start past core) {entry : PastTick} (hmem : entry ∈ past) :
    (∃ earlier, Past start earlier entry.before) ∧
      ∃ watch, entry.before.TickCase watch entry.credits entry.cycle entry.tick := by
  obtain ⟨later, earlier, rfl⟩ := List.append_of_mem hmem
  obtain ⟨hbefore, -, hcase⟩ := h.of_append
  exact ⟨⟨earlier, hbefore⟩, hcase⟩

end Past

/-- The ticks of a core at some cycles under one arbiter and one credit, the last one
first. -/
def Core.pastTicks (arbiter : Arbiter) (watch : Watch) (credits : CreditBoard) (core : Core) :
    List Cycle → List PastTick × Core
  | [] => ([], core)
  | cycle :: cycles =>
      let (past, before) := core.pastTicks arbiter watch credits cycles
      let tick := before.tickWith arbiter watch credits cycle
      (⟨before, credits, cycle, tick⟩ :: past, tick.core)

theorem past_pastTicks (arbiter : Arbiter) (watch : Watch) (credits : CreditBoard) (core : Core)
    (cycles : List Cycle) :
    Past core (core.pastTicks arbiter watch credits cycles).1
      (core.pastTicks arbiter watch credits cycles).2 := by
  induction cycles with
  | nil => exact .start
  | cons cycle cycles ih => exact ih.tick arbiter watch credits cycle

/-- The last tick leads to the core. -/
theorem exists_last_pastTicks (arbiter : Arbiter) (watch : Watch) (credits : CreditBoard)
    (core : Core) (cycle : Cycle) (cycles : List Cycle) :
    ∃ last ∈ (core.pastTicks arbiter watch credits (cycle :: cycles)).1,
      last.cycle = cycle ∧
      last.tick.core = (core.pastTicks arbiter watch credits (cycle :: cycles)).2 :=
  ⟨_, List.mem_cons_self, rfl, rfl⟩

end CoreArray
