import CoreArray.Proofs.Core.InOrder
import CoreArray.Proofs.Core.Interleaving
set_option autoImplicit false

/-!
# The time that a core takes (SPEC §4.5, §10.8)

The bus, a poll and a sleep take a time that depends on nothing but the instruction.  A core
that ticks at every cycle and has only such instructions never stalls, and when it finishes
is known beforehand: every instruction takes up as many ticks as its time, but at least one,
and a track that is begun after another loses a tick.  The arbiter decides in which order the
tracks are executed, not how long it takes.

Two counts carry the proof.  The ticks that are left (`Core.ticksLeft`) fall by one at every
tick until the core has finished, and the busy ticks together with the time that is left
(`Core.timeLeft`) stay the same.  Both are sums over the tracks, and at each tick only one
track makes a difference: no other holds the turn.
-/

namespace CoreArray

/-! ## Times -/

/-- The time that an instruction takes, if nothing else decides on it: the cost of an
operation of the bus or of a poll, the operand of a sleep. -/
def CoreSpec.duration? (spec : CoreSpec) (instr : Instruction) : Option Nat :=
  match UnitName.ofText? instr.unit with
  | some .bus => (spec.latencies.cost? .bus instr.opcode).map Binary64.toCycles
  | some .cpu =>
      (spec.latencies.cost? .cpu instr.opcode).bind fun cost =>
        if instr.opcode = "poll" then some cost.toCycles
        else if instr.opcode = "sleep" then
          instr.operands[0]?.bind fun cycles => if cycles < 0 then none else some cycles.toNat
        else none
  | _ => none

/-- The time that an instruction takes. -/
def CoreSpec.duration (spec : CoreSpec) (instr : Instruction) : Nat :=
  (spec.duration? instr).getD 0

/-- The sum of the times of instructions. -/
def timeOf (duration : Instruction → Nat) (instrs : List Instruction) : Nat :=
  (instrs.map duration).sum

/-- The ticks that instructions take up, one after the other. -/
def ticksOf (duration : Instruction → Nat) (instrs : List Instruction) : Nat :=
  (instrs.map fun instr => max 1 (duration instr)).sum

/-- The ticks from that at a cycle on until an instruction that completes at another leaves
its track, if its turn comes at once. -/
def ticksUntil (now doneAt : Nat) : Nat := doneAt + 1 - now

/-- The cycle at which a core finishes that begins at a cycle. -/
def CoreSpec.finishAt (spec : CoreSpec) (tracks : List (List Instruction)) (start : Nat) : Nat :=
  start + ticksOf spec.duration tracks.flatten +
    ((tracks.filter fun instrs => !instrs.isEmpty).length - 1)

theorem timeOf_append (duration : Instruction → Nat) (instrs others : List Instruction) :
    timeOf duration (instrs ++ others) = timeOf duration instrs + timeOf duration others := by
  unfold timeOf
  rw [List.map_append, List.sum_append]

theorem ticksOf_append (duration : Instruction → Nat) (instrs others : List Instruction) :
    ticksOf duration (instrs ++ others) = ticksOf duration instrs + ticksOf duration others := by
  unfold ticksOf
  rw [List.map_append, List.sum_append]

theorem ticksUntil_succ (now doneAt : Nat) :
    ticksUntil (now + 1) doneAt = ticksUntil now doneAt - 1 := by
  unfold ticksUntil
  omega

theorem ticksUntil_add (now time : Nat) : ticksUntil (now + 1) (now + time) = time := by
  unfold ticksUntil
  omega

theorem one_lt_ticksUntil {now doneAt : Nat} (h : now < doneAt) : 1 < ticksUntil now doneAt := by
  unfold ticksUntil
  omega

theorem ticksUntil_le_one {now doneAt : Nat} (h : doneAt ≤ now) : ticksUntil now doneAt ≤ 1 := by
  unfold ticksUntil
  omega

namespace Core

/-- An instruction whose time is known completes when it is over. -/
theorem reply_of_duration (watch : Watch) {core : Core} (credits : CreditBoard) {now : Nat}
    {instr : Instruction} {time : Nat} (htime : core.spec.duration? instr = some time)
    (hfits : now + time ≤ lastCycle) :
    (core.handing watch credits now instr).reply = .ok (.complete (now + time)) := by
  unfold CoreSpec.duration? at htime
  unfold handing
  cases hunit : UnitName.ofText? instr.unit with
  | none => rw [hunit] at htime; simp at htime
  | some unit =>
      rw [hunit] at htime
      cases unit with
      | bus =>
          obtain ⟨cost, hcost, rfl⟩ := Option.map_eq_some_iff.mp htime
          unfold Datapath.run Datapath.runBus CoreSpec.costOf
          dsimp only
          rw [hcost]
          rfl
      | cpu =>
          obtain ⟨cost, hcost, htime⟩ := Option.bind_eq_some_iff.mp htime
          unfold Datapath.run Datapath.runCpu CoreSpec.costOf
          dsimp only
          rw [hcost]
          dsimp only
          by_cases hpoll : instr.opcode = "poll"
          · rw [if_pos hpoll, Option.some.injEq] at htime
            rw [hpoll, if_neg (by decide), if_pos rfl, ← htime]
            rfl
          · rw [if_neg hpoll] at htime
            by_cases hsleep : instr.opcode = "sleep"
            · rw [if_pos hsleep] at htime
              obtain ⟨cycles, hcycles, htime⟩ := Option.bind_eq_some_iff.mp htime
              split at htime
              · simp at htime
              · next hnonneg =>
                  rw [Option.some.injEq] at htime
                  subst htime
                  rw [hsleep, if_neg (by decide), if_neg (by decide), if_pos rfl]
                  unfold Datapath.sleepEnd
                  rw [Datapath.operandOf_of_getElem? hcycles]
                  dsimp only
                  rw [if_neg hnonneg, if_neg (Nat.not_lt.mpr hfits)]
                  rfl
            · rw [if_neg hsleep] at htime
              simp at htime
      | acc => simp at htime
      | buffer => simp at htime
      | ni => simp at htime

end Core

/-! ## One track -/

namespace Track

/-- The ticks from a cycle on until nothing is left of a track, if it has them all. -/
def ticksLeft (duration : Instruction → Nat) (now : Nat) (track : Track) : Nat :=
  match track.instructions, track.marker with
  | [], _ => 0
  | first :: rest, .unset => 1 + ticksOf duration (first :: rest)
  | _ :: rest, .at doneAt => max 1 (ticksUntil now doneAt) + ticksOf duration rest

/-- The busy ticks of a track that have not been counted before the tick at a cycle; that of
the cycle before is counted by this tick. -/
def timeLeft (duration : Instruction → Nat) (now : Nat) (track : Track) : Nat :=
  match track.instructions, track.marker with
  | [], _ => 0
  | first :: rest, .unset => timeOf duration (first :: rest)
  | _ :: rest, .at doneAt => ticksUntil now doneAt + timeOf duration rest

/-- What the tick at a cycle counts for the cycle before. -/
def owed (now : Nat) (track : Track) : Nat :=
  match track.marker with
  | .unset => 0
  | .at doneAt => min 1 (ticksUntil now doneAt)

section Counts

variable (duration : Instruction → Nat) (now : Nat) {track : Track}

/-- A track that does not hold the turn waits. -/
theorem left_of_not_holdsTurn (h : track.holdsTurn = false) :
    track.ticksLeft duration (now + 1) = track.ticksLeft duration now ∧
      track.timeLeft duration (now + 1) = track.timeLeft duration now := by
  obtain ⟨instructions, marker⟩ := track
  cases instructions with
  | nil => exact ⟨rfl, rfl⟩
  | cons first rest =>
      cases marker with
      | unset => exact ⟨rfl, rfl⟩
      | «at» doneAt => simp [holdsTurn, isEmpty, Marker.isSet] at h

/-- A track that executes at a tick has one tick less afterwards. -/
theorem left_of_isBusy (hempty : track.isEmpty = false) (hbusy : track.isBusy now = true) :
    track.ticksLeft duration (now + 1) + 1 = track.ticksLeft duration now ∧
      track.timeLeft duration (now + 1) + track.owed now = track.timeLeft duration now := by
  obtain ⟨instructions, marker⟩ := track
  cases instructions with
  | nil => simp [isEmpty] at hempty
  | cons first rest =>
      cases marker with
      | unset => simp [isBusy, Marker.isAfter] at hbusy
      | «at» doneAt =>
          have hlong := one_lt_ticksUntil (of_decide_eq_true hbusy)
          unfold ticksLeft timeLeft owed
          dsimp only
          rw [ticksUntil_succ]
          constructor
          · omega
          · omega

/-- What a track that can go on has left: the turn itself, and then the instructions that
the turn leaves. -/
theorem left_of_isReady (hready : track.isReady now = true) :
    track.ticksLeft duration now = 1 + ticksOf duration (Core.afterRetiring track).instructions ∧
      track.timeLeft duration now =
        track.owed now + timeOf duration (Core.afterRetiring track).instructions := by
  obtain ⟨hempty, hidle⟩ := isReady_iff.mp hready
  obtain ⟨instructions, marker⟩ := track
  cases instructions with
  | nil => simp [isEmpty] at hempty
  | cons first rest =>
      cases marker with
      | unset => exact ⟨rfl, (Nat.zero_add _).symm⟩
      | «at» doneAt =>
          have hshort := ticksUntil_le_one (Nat.le_of_not_lt (of_decide_eq_false hidle))
          have hrest : (Core.afterRetiring ⟨first :: rest, .at doneAt⟩).instructions = rest := rfl
          rw [hrest]
          unfold ticksLeft timeLeft owed
          dsimp only
          constructor
          · omega
          · omega

theorem ticksLeft_eq_zero_iff : track.ticksLeft duration now = 0 ↔ track.isEmpty = true := by
  obtain ⟨instructions, marker⟩ := track
  cases instructions with
  | nil => exact iff_of_true rfl rfl
  | cons first rest =>
      refine iff_of_false ?_ (by simp [isEmpty])
      cases marker with
      | unset =>
          unfold ticksLeft
          dsimp only
          omega
      | «at» doneAt =>
          unfold ticksLeft
          dsimp only
          omega

theorem owed_le_one (now : Nat) (track : Track) : track.owed now ≤ 1 := by
  unfold owed
  cases track.marker with
  | unset => exact Nat.zero_le 1
  | «at» doneAt => exact Nat.min_le_left _ _

theorem left_of_isEmpty (hhead : track.head? = none) :
    track.ticksLeft duration now = 0 ∧ track.timeLeft duration now = 0 ∧
      track.instructions = [] := by
  obtain ⟨instructions, marker⟩ := track
  have hnil : instructions = [] := List.head?_eq_none_iff.mp hhead
  subst hnil
  exact ⟨rfl, rfl, rfl⟩

/-- A track whose first instruction is taken up has left what its instructions take. -/
theorem left_of_taken {instr : Instruction} (hhead : track.head? = some instr) :
    (track.answered (.ok (.complete (now + duration instr)))).ticksLeft duration (now + 1) =
        ticksOf duration track.instructions ∧
      (track.answered (.ok (.complete (now + duration instr)))).timeLeft duration (now + 1) =
        timeOf duration track.instructions := by
  obtain ⟨rest, hinstrs⟩ := mem_of_head? hhead
  unfold ticksLeft timeLeft
  rw [instructions_answered, hinstrs]
  unfold answered ticksOf timeOf
  dsimp only [Marker.ofOutcome]
  rw [List.map_cons, List.map_cons, List.sum_cons, List.sum_cons, ticksUntil_add]
  exact ⟨rfl, rfl⟩

end Counts

end Track

/-! ## A tick of the core -/

namespace Core

/-- The ticks that are left from a cycle on. -/
def ticksLeft (core : Core) (now : Nat) : Nat :=
  (core.tracks.map (Track.ticksLeft core.spec.duration now)).sum

/-- The busy ticks that have not been counted before the tick at a cycle. -/
def timeLeft (core : Core) (now : Nat) : Nat :=
  (core.tracks.map (Track.timeLeft core.spec.duration now)).sum

/-- Whether the times of all instructions that are left are known. -/
def IsTimed (core : Core) : Prop :=
  ∀ track ∈ core.tracks, ∀ instr ∈ track.instructions,
    (core.spec.duration? instr).isSome = true

section Ticks

variable {watch : Watch} {core : Core} {credits : CreditBoard} {now : Nat} {tick : Tick}

/-- What a tick does of a core that has work left: one track makes a difference, and no
other holds the turn. -/
structure Advance (core : Core) (now : Nat) (tick : Tick) (index : Nat)
    (track after : Track) : Prop where
  get : core.tracks[index]? = some track
  tracks : tick.core.tracks = core.tracks.set index after
  others : ∀ other, other ≠ index → core.holds other = false
  ticks : after.ticksLeft core.spec.duration (now + 1) + 1 = track.ticksLeft core.spec.duration now
  time : after.timeLeft core.spec.duration (now + 1) + track.owed now =
    track.timeLeft core.spec.duration now
  result : tick.result = .ok ()

/-- While a core is busy, the track that executes makes the difference. -/
theorem advance_of_busy (hexclusive : core.IsExclusive) (hrested : core.IsRested now)
    (hbusy : core.isBusy now = true) (htracks : tick.core.tracks = core.tracks)
    (hattempt : tick.attempt = none) : ∃ index track, Advance core now tick index track track := by
  obtain ⟨track, hmem, htrack⟩ := List.any_eq_true.mp hbusy
  obtain ⟨index, hget⟩ := List.mem_iff_getElem?.mp hmem
  obtain ⟨hlt, hat⟩ := List.getElem?_eq_some_iff.mp hget
  have hempty : track.isEmpty = false := by
    refine Bool.eq_false_iff.mpr fun hempty => ?_
    rw [hrested track hmem hempty] at htrack
    simp at htrack
  have hset : track.marker.isSet = true := by
    unfold Track.isBusy at htrack
    cases hmarker : track.marker with
    | unset => rw [hmarker] at htrack; simp [Marker.isAfter] at htrack
    | «at» doneAt => rfl
  have hholds : core.holds index = true :=
    holds_iff.mpr ⟨track, hget, Track.holdsTurn_iff.mpr ⟨hempty, hset⟩⟩
  obtain ⟨hticks, htime⟩ :=
    Track.left_of_isBusy core.spec.duration now hempty htrack
  refine ⟨index, track, hget, ?_, ?_, hticks, htime, ?_⟩
  · rw [htracks, ← hat, List.set_getElem_self]
  · intro other hne
    refine Bool.eq_false_iff.mpr fun hother => hne ?_
    exact hexclusive other index hother hholds
  · unfold Tick.result
    rw [hattempt]

/-- No track but the one that is chosen holds the turn. -/
theorem Chosen.holds_of_ne {index other : Nat} {track : Track} (h : core.Chosen now index track)
    (hbusy : core.isBusy now = false) (hexclusive : core.IsExclusive) (hne : other ≠ index) :
    core.holds other = false :=
  Bool.eq_false_iff.mpr fun hholds => hne (h.eq_of_holds hbusy hexclusive hholds)

/-- The turn of a track makes the difference, if the clock does not overflow. -/
theorem advance_of_turn {index : Nat} {track : Track} (hexclusive : core.IsExclusive)
    (htimed : core.IsTimed) (hclock : now + core.ticksLeft now ≤ lastCycle + 1)
    (hbusy : core.isBusy now = false) (hchosen : core.Chosen now index track)
    (hturn : core.TurnCase watch credits now index track tick) :
    ∃ after, Advance core now tick index track after := by
  have hothers : ∀ other, other ≠ index → core.holds other = false :=
    fun other hne => hchosen.holds_of_ne hbusy hexclusive hne
  have hmem := List.mem_of_getElem? hchosen.get
  obtain ⟨hticks, htime⟩ :=
    Track.left_of_isReady core.spec.duration now hchosen.ready
  cases hturn with
  | drained hhead htracks _ _ _ hattempt =>
      obtain ⟨hnone, hdone, hnil⟩ :=
        Track.left_of_isEmpty core.spec.duration (now + 1) hhead
      rw [hnil] at hticks htime
      refine ⟨_, hchosen.get, htracks, hothers, ?_, ?_, ?_⟩
      · rw [hnone, hticks]
        rfl
      · rw [hdone, htime]
        exact Nat.zero_add _
      · unfold Tick.result
        rw [hattempt]
  | tried instr hhead htracks _ _ _ hattempt =>
      obtain ⟨rest, hinstrs⟩ := Track.mem_of_head? hhead
      have hinstr : instr ∈ track.instructions :=
        mem_of_mem_afterRetiring (by rw [hinstrs]; exact List.mem_cons_self)
      obtain ⟨time, hknown⟩ := Option.isSome_iff_exists.mp (htimed track hmem instr hinstr)
      have hduration : core.spec.duration instr = time := by
        unfold CoreSpec.duration
        rw [hknown]
        rfl
      have hfits : now + core.spec.duration instr ≤ lastCycle := by
        have hsum : track.ticksLeft core.spec.duration now ≤ core.ticksLeft now :=
          List.le_sum_of_mem (List.mem_map_of_mem hmem)
        rw [hticks, hinstrs] at hsum
        unfold ticksOf at hsum
        rw [List.map_cons, List.sum_cons] at hsum
        omega
      rw [← hduration] at hknown
      have hreply := reply_of_duration watch credits hknown hfits
      obtain ⟨hafterTicks, hafterTime⟩ :=
        Track.left_of_taken core.spec.duration now hhead
      rw [hreply] at htracks hattempt
      refine ⟨_, hchosen.get, htracks, hothers, ?_, ?_, ?_⟩
      · rw [hafterTicks, hticks, Nat.add_comm]
      · rw [hafterTime, htime, Nat.add_comm]
      · unfold Tick.result
        rw [hattempt]

/-- At every tick until a core has finished one track makes a difference. -/
theorem TickCase.exists_advance (h : core.TickCase watch credits now tick)
    (hexclusive : core.IsExclusive) (hrested : core.IsRested now) (htimed : core.IsTimed)
    (hclock : now + core.ticksLeft now ≤ lastCycle + 1)
    (hfinished : core.isFinished now = false) :
    ∃ index track after, Advance core now tick index track after := by
  cases h with
  | idle hidle htracks _ _ _ hattempt =>
      rw [hfinished] at hidle
      have hbusy : core.isBusy now = true := hidle.resolve_left (by simp)
      obtain ⟨index, track, hadvance⟩ :=
        advance_of_busy hexclusive hrested hbusy htracks hattempt
      exact ⟨index, track, track, hadvance⟩
  | turned hbusy index track hchosen hturn =>
      obtain ⟨after, hadvance⟩ :=
        advance_of_turn hexclusive htimed hclock hbusy hchosen hturn
      exact ⟨index, track, after, hadvance⟩

/-! ## The sums over the tracks -/

section Sums

variable {index : Nat} {track after : Track}

theorem Advance.ticksLeft (h : Advance core now tick index track after)
    (hspec : tick.core.spec = core.spec) :
    tick.core.ticksLeft (now + 1) + 1 = core.ticksLeft now := by
  have hsum := sum_map_set_add (f := Track.ticksLeft core.spec.duration now)
    (g := Track.ticksLeft core.spec.duration (now + 1)) h.get after fun other found hne hfound => by
      have hnot := h.others other hne
      unfold holds at hnot
      rw [hfound, Option.any_some] at hnot
      exact (Track.left_of_not_holdsTurn _ _ hnot).1
  have hticks := h.ticks
  unfold Core.ticksLeft
  rw [hspec, h.tracks]
  omega

theorem Advance.timeLeft (h : Advance core now tick index track after)
    (hspec : tick.core.spec = core.spec) :
    tick.core.timeLeft (now + 1) + track.owed now = core.timeLeft now := by
  have hsum := sum_map_set_add (f := Track.timeLeft core.spec.duration now)
    (g := Track.timeLeft core.spec.duration (now + 1)) h.get after fun other found hne hfound => by
      have hnot := h.others other hne
      unfold holds at hnot
      rw [hfound, Option.any_some] at hnot
      exact (Track.left_of_not_holdsTurn _ _ hnot).2
  have htime := h.time
  unfold Core.timeLeft
  rw [hspec, h.tracks]
  omega

/-- The core was busy at the cycle before if the track was that makes the difference. -/
theorem Advance.isBusy_before {last : Nat} (h : Advance core (last + 1) tick index track after)
    (hrested : core.IsRested last) : core.isBusy last = true ↔ track.owed (last + 1) = 1 := by
  have htrack : track.isBusy last = true ↔ track.owed (last + 1) = 1 := by
    unfold Track.isBusy Track.owed
    cases track.marker with
    | unset => simp [Marker.isAfter]
    | «at» doneAt =>
        unfold Marker.isAfter
        dsimp only
        rw [decide_eq_true_eq, ticksUntil_succ]
        constructor
        · intro hlt
          have hlong := one_lt_ticksUntil hlt
          omega
        · intro howed
          refine Nat.lt_of_not_le fun hle => ?_
          have hshort := ticksUntil_le_one hle
          omega
  rw [← htrack]
  constructor
  · intro hbusy
    obtain ⟨found, hmem, hfound⟩ := List.any_eq_true.mp hbusy
    obtain ⟨other, hother⟩ := List.mem_iff_getElem?.mp hmem
    by_cases hindex : other = index
    · subst hindex
      rw [h.get, Option.some.injEq] at hother
      rw [hother]
      exact hfound
    · -- Another track is empty or has no marker, and so does not execute.
      exfalso
      have hnot := h.others other hindex
      unfold holds Track.holdsTurn at hnot
      rw [hother, Option.any_some, Bool.and_eq_false_iff, Bool.not_eq_false'] at hnot
      rcases hnot with hempty | hunset
      · rw [hrested found hmem hempty] at hfound
        simp at hfound
      · unfold Track.isBusy at hfound
        cases hmarker : found.marker with
        | unset => rw [hmarker] at hfound; simp [Marker.isAfter] at hfound
        | «at» doneAt => rw [hmarker] at hunset; simp [Marker.isSet] at hunset
  · intro hbusy
    exact List.any_eq_true.mpr ⟨track, List.mem_of_getElem? h.get, hbusy⟩

end Sums

/-- A core has finished when no tick is left. -/
theorem isFinished_iff_ticksLeft (hrested : core.IsRested now) (later : Nat) :
    core.isFinished now = true ↔ core.ticksLeft later = 0 := by
  unfold ticksLeft isFinished
  rw [List.sum_eq_zero_iff, List.forall_mem_map, List.all_eq_true]
  refine forall₂_congr fun track hmem => ?_
  rw [Track.ticksLeft_eq_zero_iff]
  unfold Track.isFinished
  rw [Bool.and_eq_true, Bool.not_eq_true', and_iff_left_iff_imp]
  exact hrested track hmem

/-- Where no tick is left, no time is left. -/
theorem timeLeft_of_ticksLeft (h : core.ticksLeft now = 0) : core.timeLeft now = 0 := by
  unfold ticksLeft at h
  unfold timeLeft
  rw [List.sum_eq_zero_iff, List.forall_mem_map] at h ⊢
  intro track hmem
  have hempty := (Track.ticksLeft_eq_zero_iff _ _).mp (h track hmem)
  exact (Track.left_of_isEmpty _ _ (List.head?_eq_none_iff.mpr (List.isEmpty_iff.mp hempty))).2.1

theorem countTick_of_last {last : Nat} (hlast : core.lastTick = some last) (hlt : last < now) :
    core.countTick now =
      if core.isBusy last then { core with busy := core.busy + 1, lastTick := some now }
      else { core with idle := core.idle + 1, lastTick := some now } := by
  unfold countTick
  rw [hlast]
  dsimp only
  rw [if_neg (Nat.not_le.mpr hlt)]

/-- A tick that follows another counts it as busy or idle. -/
theorem Advance.tally {last index : Nat} {track after : Track}
    (h : Advance core (last + 1) tick index track after) (hrested : core.IsRested last)
    (hlast : core.lastTick = some last)
    (htally : tick.core.tally = (core.countTick (last + 1)).tally) :
    tick.core.busy = core.busy + track.owed (last + 1) ∧
      tick.core.busy + tick.core.idle = core.busy + core.idle + 1 := by
  rw [countTick_of_last hlast (Nat.lt_succ_self last)] at htally
  have hbusy := h.isBusy_before hrested
  have howed : track.owed (last + 1) ≤ 1 := Track.owed_le_one _ _
  unfold Core.tally at htally
  split at htally
  · next hwas =>
      rw [Prod.mk.injEq, Prod.mk.injEq] at htally
      obtain ⟨hcount, hidle, -⟩ := htally
      have hone := hbusy.mp hwas
      rw [hcount, hidle, hone]
      exact ⟨rfl, Nat.add_right_comm _ _ _⟩
  · next hwas =>
      rw [Prod.mk.injEq, Prod.mk.injEq] at htally
      obtain ⟨hcount, hidle, -⟩ := htally
      have hzero : track.owed (last + 1) = 0 := by
        have hne : track.owed (last + 1) ≠ 1 := fun hone => hwas (hbusy.mpr hone)
        omega
      rw [hcount, hidle, hzero]
      exact ⟨rfl, rfl⟩

end Ticks

/-! ## Cores that have not begun -/

section Starts

variable (spec : CoreSpec) (tracks : List (List Instruction)) (tensors : TensorTable) (seed : Nat)
  (now : Nat)

/-- What a core has left that has not begun: a tick for every track that has instructions,
and the ticks of these. -/
theorem ticksLeft_ofTracks :
    (ofTracks spec tracks tensors seed).ticksLeft now =
      ticksOf spec.duration tracks.flatten +
        (tracks.filter fun instrs => !instrs.isEmpty).length := by
  unfold ticksLeft ofTracks
  dsimp only
  rw [List.map_map]
  induction tracks with
  | nil => rfl
  | cons instrs tracks ih =>
      rw [List.map_cons, List.sum_cons, ih, List.flatten_cons, List.filter_cons, ticksOf_append]
      cases instrs with
      | nil =>
          have hnone : (Track.ticksLeft spec.duration now ∘ Track.ofInstructions) [] = 0 := rfl
          have hzero : ticksOf spec.duration [] = 0 := rfl
          rw [hnone, hzero, Nat.zero_add, Nat.zero_add]
          rfl
      | cons first rest =>
          have hfirst : (Track.ticksLeft spec.duration now ∘ Track.ofInstructions)
              (first :: rest) = 1 + ticksOf spec.duration (first :: rest) := rfl
          rw [hfirst]
          simp only [List.isEmpty_cons, Bool.not_false, if_true, List.length_cons]
          omega

theorem timeLeft_ofTracks :
    (ofTracks spec tracks tensors seed).timeLeft now = timeOf spec.duration tracks.flatten := by
  unfold timeLeft ofTracks
  dsimp only
  rw [List.map_map]
  induction tracks with
  | nil => rfl
  | cons instrs tracks ih =>
      rw [List.map_cons, List.sum_cons, ih, List.flatten_cons, timeOf_append]
      cases instrs with
      | nil => rfl
      | cons first rest => rfl

end Starts

end Core

/-! ## Whole pasts -/

/-- Whether a core has ticked at every cycle from a cycle on, in a past of which the last
tick comes first. -/
def IsSteady (start : Nat) : List PastTick → Prop
  | [] => True
  | entry :: past => entry.cycle = start + past.length ∧ IsSteady start past

namespace IsSteady

variable {start : Nat} {past : List PastTick}

theorem cycle_lt (h : IsSteady start past) : ∀ entry ∈ past, entry.cycle < start + past.length := by
  induction past with
  | nil => simp
  | cons last past ih =>
      obtain ⟨hlast, hrest⟩ := h
      intro entry hmem
      rw [List.length_cons]
      rcases List.mem_cons.mp hmem with rfl | hmem
      · rw [hlast]
        exact Nat.lt_succ_self _
      · exact Nat.lt_succ_of_lt (ih hrest entry hmem)

theorem isForward (h : IsSteady start past) : IsForward past := by
  induction past with
  | nil => exact List.Pairwise.nil
  | cons last past ih =>
      obtain ⟨hlast, hrest⟩ := h
      refine List.pairwise_cons.mpr ⟨fun earlier hmem => ?_, ih hrest⟩
      rw [hlast]
      exact Nat.le_of_lt (hrest.cycle_lt earlier hmem)

theorem of_append {later : List PastTick} (h : IsSteady start (later ++ past)) :
    IsSteady start past := by
  induction later with
  | nil => exact h
  | cons last later ih => exact ih h.2

end IsSteady

namespace Core

section Pasts

variable {spec : CoreSpec} {tracks : List (List Instruction)} {tensors : TensorTable} {seed : Nat}
  {start : Nat} {core : Core} {past : List PastTick}

/-- What holds of a core with known times that ticks at every cycle, until it has
finished. -/
structure Paced (spec : CoreSpec) (tracks : List (List Instruction)) (start : Nat)
    (past : List PastTick) (core : Core) : Prop where
  timed : core.IsTimed
  fresh : past = [] → ∀ track ∈ core.tracks, track.marker = .unset
  faultless : IsFaultless past
  ticks : start + past.length + core.ticksLeft (start + past.length) =
    spec.finishAt tracks start + 1
  time : core.busy + core.timeLeft (start + past.length) = timeOf spec.duration tracks.flatten
  last : core.lastTick = past.head?.map PastTick.cycle
  count : core.busy + core.idle = past.length - 1

/-- The first tick counts nothing, every other one the tick before it. -/
theorem Paced.counted {tick : Tick} {index : Nat} {track after : Track}
    (h : Paced spec tracks start past core)
    (hpast : Past (ofTracks spec tracks tensors seed) past core) (hsteady : IsSteady start past)
    (hadvance : Advance core (start + past.length) tick index track after)
    (htally : tick.core.tally = (core.countTick (start + past.length)).tally) :
    tick.core.lastTick = some (start + past.length) ∧
      tick.core.busy = core.busy + track.owed (start + past.length) ∧
      tick.core.busy + tick.core.idle = past.length := by
  have hlast := h.last
  have hcount := h.count
  cases past with
  | nil =>
      have howed : track.owed (start + ([] : List PastTick).length) = 0 := by
        unfold Track.owed
        rw [h.fresh rfl track (List.mem_of_getElem? hadvance.get)]
      unfold countTick at htally
      rw [hlast] at htally
      unfold tally at htally
      dsimp only [List.head?_nil, Option.map_none] at htally
      rw [Prod.mk.injEq, Prod.mk.injEq] at htally
      obtain ⟨hbusy, hidle, hnow⟩ := htally
      rw [howed, hbusy, hidle]
      exact ⟨hnow, rfl, hcount⟩
  | cons entry earlier =>
      have hrested : core.IsRested (start + earlier.length) :=
        hpast.isRested hsteady.isForward fun other hmem =>
          Nat.le_of_lt_succ (hsteady.cycle_lt other hmem)
      rw [List.head?_cons, Option.map_some, hsteady.1] at hlast
      rw [List.length_cons, ← Nat.add_assoc] at hadvance htally ⊢
      obtain ⟨hbusy, hsum⟩ := hadvance.tally hrested hlast htally
      refine ⟨?_, hbusy, ?_⟩
      · rw [countTick_of_last hlast (Nat.lt_succ_self _)] at htally
        unfold tally at htally
        split at htally
        · exact (Prod.mk.inj (Prod.mk.inj htally).2).2
        · exact (Prod.mk.inj (Prod.mk.inj htally).2).2
      · rw [hsum, hcount]
        rfl

/-- A core that has not finished keeps its pace at the next tick. -/
theorem Paced.next (h : Paced spec tracks start past core)
    (hpast : Past (ofTracks spec tracks tensors seed) past core) (hsteady : IsSteady start past)
    (hclock : spec.finishAt tracks start ≤ lastCycle)
    (hleft : start + past.length ≤ spec.finishAt tracks start) (arbiter : Arbiter)
    (watch : Watch) (credits : CreditBoard) :
    Paced spec tracks start
      (⟨core, credits, start + past.length,
        core.tickWith arbiter watch credits (start + past.length)⟩ :: past)
      (core.tickWith arbiter watch credits (start + past.length)).core := by
  have hcase := core.tickWith_case arbiter watch credits (start + past.length)
  have hspec := core.tickWith_spec arbiter watch credits (start + past.length)
  have htally := core.tickWith_tally arbiter watch credits (start + past.length)
  generalize core.tickWith arbiter watch credits (start + past.length) = tick at hcase hspec htally
  have hticks := h.ticks
  have htime := h.time
  have hrested : core.IsRested (start + past.length) :=
    hpast.isRested hsteady.isForward fun entry hmem => Nat.le_of_lt (hsteady.cycle_lt entry hmem)
  have hunfinished : core.isFinished (start + past.length) = false := by
    refine Bool.eq_false_iff.mpr fun hfinished => ?_
    rw [(isFinished_iff_ticksLeft hrested _).mp hfinished] at hticks
    omega
  obtain ⟨index, track, after, hadvance⟩ := hcase.exists_advance (isExclusive_of_past hpast)
    hrested h.timed (by omega) hunfinished
  have hticksLeft := hadvance.ticksLeft hspec
  have htimeLeft := hadvance.timeLeft hspec
  obtain ⟨hlast, hbusy, hcount⟩ := h.counted hpast hsteady hadvance htally
  refine ⟨?_, fun hnil => by simp at hnil, ?_, ?_, ?_, hlast, hcount⟩
  · intro other hmem instr hinstr
    obtain ⟨before, hbefore, hold⟩ := hcase.exists_instruction hmem hinstr
    rw [hspec]
    exact h.timed before hbefore instr hold
  · intro entry hmem
    rcases List.mem_cons.mp hmem with rfl | hmem
    · exact hadvance.result
    · exact h.faultless entry hmem
  · rw [List.length_cons, ← Nat.add_assoc]
    omega
  · rw [List.length_cons, ← Nat.add_assoc]
    omega

/-- A core with known times keeps its pace until it has finished. -/
theorem paced_of_past (h : Past (ofTracks spec tracks tensors seed) past core)
    (htimed : ∀ instrs ∈ tracks, ∀ instr ∈ instrs, (spec.duration? instr).isSome = true)
    (hsome : ∃ instrs ∈ tracks, instrs ≠ []) (hclock : spec.finishAt tracks start ≤ lastCycle)
    (hsteady : IsSteady start past)
    (hlength : start + past.length ≤ spec.finishAt tracks start + 1) :
    Paced spec tracks start past core := by
  induction h with
  | start =>
      obtain ⟨instrs, hmem, hne⟩ := hsome
      have hpositive : 0 < (tracks.filter fun instrs => !instrs.isEmpty).length := by
        refine List.length_pos_of_mem (List.mem_filter.mpr ⟨hmem, ?_⟩)
        simpa using hne
      refine ⟨?_, ?_, ?_, ?_, ?_, rfl, rfl⟩
      · intro track htrack instr hinstr
        obtain ⟨found, hfound, rfl⟩ := List.mem_map.mp htrack
        exact htimed found hfound instr hinstr
      · intro _ track htrack
        obtain ⟨found, -, rfl⟩ := List.mem_map.mp htrack
        rfl
      · intro entry hentry
        simp at hentry
      · rw [ticksLeft_ofTracks]
        unfold CoreSpec.finishAt
        dsimp only [List.length_nil]
        omega
      · rw [timeLeft_ofTracks]
        exact Nat.zero_add _
  | @tick past core hpast arbiter watch credits cycle ih =>
      obtain ⟨rfl, hrest⟩ := hsteady
      rw [List.length_cons, ← Nat.add_assoc] at hlength
      have hleft : start + past.length ≤ spec.finishAt tracks start := Nat.le_of_succ_le_succ hlength
      exact (ih hrest (Nat.le_succ_of_le hleft)).next hpast hrest hclock hleft arbiter watch credits
  | exchange _ port ih =>
      obtain ⟨htracksTimed, hfresh, hfaultless, hticks, htime, hlast, hcount⟩ := ih hsteady hlength
      exact ⟨htracksTimed, hfresh, hfaultless, hticks, htime, hlast, hcount⟩

/-- A core that has only instructions with known times, and at least one, and that ticks at
every cycle from one on, is finished first at the cycle that is computed beforehand, whatever
the arbiter.  Up to it no tick fails, and it has been busy for the times of its
instructions and idle otherwise. -/
theorem finishes_on_time (h : Past (ofTracks spec tracks tensors seed) past core)
    (htimed : ∀ instrs ∈ tracks, ∀ instr ∈ instrs, (spec.duration? instr).isSome = true)
    (hsome : ∃ instrs ∈ tracks, instrs ≠ []) (hclock : spec.finishAt tracks start ≤ lastCycle)
    (hsteady : IsSteady start past) :
    ∀ entry ∈ past, entry.cycle ≤ spec.finishAt tracks start →
      entry.tick.result = .ok () ∧
      (entry.tick.core.isFinished entry.cycle = true ↔
        entry.cycle = spec.finishAt tracks start) ∧
      (entry.cycle = spec.finishAt tracks start →
        entry.tick.core.busy = timeOf spec.duration tracks.flatten ∧
        start + entry.tick.core.busy + entry.tick.core.idle = spec.finishAt tracks start) := by
  intro entry hmem hle
  obtain ⟨later, earlier, rfl⟩ := List.append_of_mem hmem
  obtain ⟨-, hentry, -⟩ := h.of_append
  have hwhole : IsSteady start (entry :: earlier) := hsteady.of_append
  have hcycle : entry.cycle = start + earlier.length := hwhole.1
  have hpaced := paced_of_past hentry htimed hsome hclock hwhole
    (by rw [List.length_cons, ← Nat.add_assoc, ← hcycle]; exact Nat.succ_le_succ hle)
  have hrested : entry.tick.core.IsRested entry.cycle := by
    refine hentry.isRested hwhole.isForward fun other hother => ?_
    rw [hcycle]
    exact Nat.le_of_lt_succ (hwhole.cycle_lt other hother)
  have hticks := hpaced.ticks
  have htime := hpaced.time
  have hcount := hpaced.count
  rw [List.length_cons, ← Nat.add_assoc] at hticks htime
  rw [List.length_cons, Nat.add_sub_cancel] at hcount
  have hdone : entry.tick.core.ticksLeft (start + earlier.length + 1) = 0 ↔
      start + earlier.length = spec.finishAt tracks start := by
    omega
  have hfinished := isFinished_iff_ticksLeft hrested (start + earlier.length + 1)
  rw [hdone, ← hcycle] at hfinished
  refine ⟨hpaced.faultless entry List.mem_cons_self, hfinished, fun hlast => ?_⟩
  have hnone : entry.tick.core.timeLeft (start + earlier.length + 1) = 0 :=
    timeLeft_of_ticksLeft (hdone.mpr (hcycle ▸ hlast))
  rw [hnone, Nat.add_zero] at htime
  refine ⟨htime, ?_⟩
  rw [← hlast, hcycle, Nat.add_assoc, hcount]

end Pasts

/-- A core whose bus takes three cycles and whose poll takes two. -/
def timedSpec : CoreSpec :=
  { (default : CoreSpec) with
    latencies := ((LatencyTable.empty.set .bus "trans" (.ofNat 3)).set .cpu "poll" (.ofNat 2)).set
      .cpu "sleep" (.ofNat 1) }

/-- Three tracks, of which one is empty. -/
def timedTracks : List (List Instruction) :=
  [[.plain "CPU" "sleep" [0], .plain "BUS" "trans" [1]], [], [.plain "CPU" "poll" []]]

/-- The ticks of a core with these tracks, from cycle 5 on. -/
def timedRun : List PastTick × Core :=
  (ofTracks timedSpec timedTracks .empty 1).pastTicks .seeded .silent (.allOpened 1)
    [12, 11, 10, 9, 8, 7, 6, 5]

/-- The sleep takes one tick, the others take five, and the change of tracks takes one. -/
theorem timed_tracks_finish_on_time :
    timedSpec.finishAt timedTracks 5 = 12 ∧ IsSteady 5 timedRun.1 ∧
      timedRun.2.isFinished 12 = true ∧ timedRun.2.busy = 5 ∧ timedRun.2.idle = 2 := by
  have hfinish : timedSpec.finishAt timedTracks 5 = 12 := by decide +kernel
  have hsteady : IsSteady 5 timedRun.1 :=
    ⟨rfl, rfl, rfl, rfl, rfl, rfl, rfl, rfl, trivial⟩
  have htimed : ∀ instrs ∈ timedTracks, ∀ instr ∈ instrs,
      (timedSpec.duration? instr).isSome = true := by
    decide +kernel
  obtain ⟨last, hmem, hcycle, hcore⟩ :
      ∃ last ∈ timedRun.1, last.cycle = 12 ∧ last.tick.core = timedRun.2 :=
    exists_last_pastTicks _ _ _ _ _ _
  obtain ⟨-, hdone, hcounts⟩ := finishes_on_time (past_pastTicks _ _ _ _ _) htimed
    ⟨[.plain "CPU" "poll" []], by decide, by decide⟩ (by rw [hfinish]; decide +kernel) hsteady last hmem
    (Nat.le_of_eq (by rw [hfinish, hcycle]))
  rw [hfinish, hcycle, hcore] at hdone hcounts
  obtain ⟨hbusy, hsum⟩ := hcounts rfl
  have htime : timeOf timedSpec.duration timedTracks.flatten = 5 := by decide +kernel
  rw [htime] at hbusy
  exact ⟨hfinish, hsteady, hdone.mpr rfl, hbusy, by omega⟩

end Core

end CoreArray
