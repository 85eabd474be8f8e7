import CoreArray.Proofs.Core.Progress
set_option autoImplicit false

/-!
# Blocked cores (SPEC §4.5)

A core is blocked if each of its tracks either has no instruction left or waits with
one that no unit has taken up and none would take up now.  A blocked core makes no
progress at a tick, whatever the arbiter chooses, and it stays blocked as long as
its datapath and the credit stay the same.

`Arbiter.favouring` is the arbiter that chooses a given track of each core whenever
it may, by which it can be said what a core could do.
-/

namespace CoreArray

namespace Core

/-- Whether a track has nothing left or waits with an instruction that no unit has
taken up or would take up. -/
def holdsUp (core : Core) (credits : CreditBoard) (cycle : Cycle) (track : Track) : Bool :=
  match track.head? with
  | none => true
  | some instr =>
      !track.marker.isSet && !isTaken (core.handing Watch.silent credits cycle instr).reply

/-- Whether all tracks of a core are held up. -/
def isBlocked (core : Core) (credits : CreditBoard) (cycle : Cycle) : Bool :=
  core.tracks.all (core.holdsUp credits cycle)

/-! ## Replies and the clock -/

section Handing

variable {watch other : Watch} {core : Core} {credits : CreditBoard} {cycle earlier : Cycle}
  {instr : Instruction}

theorem isTaken_handing_of_le
    (h : isTaken (core.handing watch credits cycle instr).reply = true) (hle : earlier ≤ cycle) :
    isTaken (core.handing other credits earlier instr).reply = true := by
  unfold handing at h ⊢
  cases hunit : UnitName.ofText? instr.unit with
  | none => rw [hunit] at h; simp at h
  | some unit =>
      rw [hunit] at h
      dsimp only at h ⊢
      rw [isTaken_mapError] at h ⊢
      exact Datapath.isTaken_run_of_le h hle

/-- An instruction that has to wait has to wait at every cycle. -/
theorem handing_waits (h : (core.handing watch credits cycle instr).reply = .ok .notYet) :
    (core.handing other credits earlier instr).reply = .ok .notYet := by
  unfold handing at h ⊢
  cases hunit : UnitName.ofText? instr.unit with
  | none => rw [hunit] at h; simp at h
  | some unit =>
      rw [hunit] at h
      dsimp only at h ⊢
      have hreply : (core.path.run watch core.spec credits unit instr cycle).reply =
          .ok .notYet := ok_of_mapError h
      rw [Datapath.run_waits hreply]
      rfl

end Handing

/-! ## Blocked cores make no progress -/

section Blocked

variable {watch : Watch} {core : Core} {credits : CreditBoard} {cycle : Cycle} {tick : Tick}

theorem holdsUp_head (watch : Watch) {track : Track} {instr : Instruction}
    (h : core.holdsUp credits cycle track = true) (hhead : track.head? = some instr) :
    track.marker.isSet = false ∧
      isTaken (core.handing watch credits cycle instr).reply = false := by
  unfold holdsUp at h
  rw [hhead] at h
  dsimp only at h
  rw [Bool.and_eq_true, Bool.not_eq_true', Bool.not_eq_true'] at h
  refine ⟨h.1, Bool.eq_false_iff.mpr ?_⟩
  intro htaken
  have hsilent : isTaken (core.handing Watch.silent credits cycle instr).reply = true :=
    isTaken_handing_of_le htaken (Nat.le_refl cycle)
  rw [h.2] at hsilent
  simp at hsilent

/-- A ready track of a blocked core has an instruction that has not been taken up. -/
theorem blocked_ready {track : Track} (h : core.isBlocked credits cycle = true)
    (hmem : track ∈ core.tracks) (hready : track.isReady cycle = true) :
    track.marker.isSet = false := by
  obtain ⟨instr, hhead⟩ := Track.exists_head? (Track.isReady_iff.mp hready).1
  have hheld := List.all_eq_true.mp h track hmem
  exact (holdsUp_head Watch.silent hheld hhead).1

/-- A blocked core makes no progress at a tick. -/
theorem TickCase.not_progresses (h : core.TickCase watch credits cycle tick)
    (hblocked : core.isBlocked credits cycle = true) : tick.progresses = false := by
  unfold Tick.progresses
  cases h with
  | idle _ _ _ _ hretired hattempt => rw [hretired, hattempt]; rfl
  | turned _ index track hchosen hturn =>
      have hmem := List.mem_of_getElem? hchosen.get
      have hset := blocked_ready hblocked hmem hchosen.ready
      have hsame := afterRetiring_of_unset hset
      have hnone : retiring? track = none := by
        unfold retiring?
        simp [hset]
      cases hturn with
      | drained hempty _ _ _ hretired hattempt => rw [hretired, hattempt, hnone]; rfl
      | tried instr hhead _ _ _ hretired hattempt =>
          rw [hsame] at hhead
          have hheld := List.all_eq_true.mp hblocked track hmem
          have htaken := (holdsUp_head watch hheld hhead).2
          rw [hretired, hattempt, hnone]
          simpa using htaken

/-- A core stays blocked while its tracks, its datapath and the credit stay the
same. -/
theorem isBlocked_later {later : Core} {now : Cycle} (hspec : later.spec = core.spec)
    (htracks : later.tracks = core.tracks) (hpath : later.path = core.path)
    (hle : cycle ≤ now) (h : core.isBlocked credits cycle = true) :
    later.isBlocked credits now = true := by
  unfold isBlocked at h ⊢
  rw [htracks]
  rw [List.all_eq_true] at h ⊢
  intro track hmem
  have hheld := h track hmem
  unfold holdsUp
  cases hhead : track.head? with
  | none => rfl
  | some instr =>
      obtain ⟨hset, htaken⟩ := holdsUp_head Watch.silent hheld hhead
      dsimp only
      rw [hset, handing_congr Watch.silent credits now hspec hpath]
      cases hnow : isTaken (core.handing Watch.silent credits now instr).reply with
      | false => rfl
      | true =>
          have hbefore : isTaken (core.handing Watch.silent credits cycle instr).reply = true :=
            isTaken_handing_of_le hnow hle
          rw [htaken] at hbefore
          simp at hbefore

end Blocked

end Core

/-! ## What a core could do -/

/-- The arbiter that favours a track of each core. -/
def Arbiter.favouring (pick : Node → Nat) : Arbiter where
  draw core candidates :=
    if pick core.node ∈ candidates then
      (pick core.node :: candidates.erase (pick core.node), core.generator)
    else (candidates, core.generator)
  draw_perm core candidates := by
    split
    · next hmem => exact (List.perm_cons_erase hmem).symm
    · exact List.Perm.refl candidates

namespace Core

/-- The favoured track has its turn if it is ready and no ready track has a completed
instruction. -/
theorem tickWith_favouring {pick : Node → Nat} {watch : Watch} {core : Core}
    {credits : CreditBoard} {cycle : Cycle} {track : Track}
    (hfinished : core.isFinished cycle = false) (hbusy : core.isBusy cycle = false)
    (hget : core.tracks[pick core.node]? = some track) (hready : track.isReady cycle = true)
    (hunset : ∀ other ∈ core.tracks, other.isReady cycle = true → other.marker.isSet = false) :
    core.TurnCase watch credits cycle (pick core.node) track
      (core.tickWith (.favouring pick) watch credits cycle) := by
  refine core.tickWith_turn _ watch credits cycle hfinished hbusy ?_ hget
  have htracks := core.countTick_tracks cycle
  have hnode : (core.countTick cycle).node = core.node := by
    unfold node
    rw [countTick_spec]
  generalize core.countTick cycle = counted at htracks hnode
  have hcandidate : pick counted.node ∈ counted.candidates cycle := by
    rw [mem_candidates, htracks, hnode]
    exact ⟨track, hget, hready⟩
  have hdrawn : ((Arbiter.favouring pick).draw counted (counted.candidates cycle)).1 =
      pick counted.node :: (counted.candidates cycle).erase (pick counted.node) := by
    unfold Arbiter.favouring
    dsimp only
    rw [if_pos hcandidate]
  have hnone : (((Arbiter.favouring pick).draw counted (counted.candidates cycle)).1.find?
      counted.hasMarker) = none := by
    rw [List.find?_eq_none]
    intro index hmem
    have hdrawnMem := ((Arbiter.favouring pick).draw_perm counted
      (counted.candidates cycle)).mem_iff.mp hmem
    obtain ⟨other, hother, hotherReady⟩ := mem_candidates.mp hdrawnMem
    have hotherMem := List.mem_of_getElem? hother
    unfold hasMarker
    rw [hother]
    rw [htracks] at hotherMem
    rw [Option.any_some, hunset other hotherMem hotherReady]
    simp
  unfold select choose
  dsimp only
  rw [hnone, hdrawn, hnode]
  rfl

section Favoured

variable {core : Core} {credits : CreditBoard} {cycle : Cycle}

theorem isFinished_of_ready {track : Track} (hmem : track ∈ core.tracks)
    (hready : track.isReady cycle = true) : core.isFinished cycle = false := by
  refine List.all_eq_false.mpr ⟨track, hmem, ?_⟩
  unfold Track.isFinished
  rw [(Track.isReady_iff.mp hready).1]
  simp

/-- A core that is finished can tick. -/
theorem tick_ok_of_finished (arbiter : Arbiter) (watch : Watch)
    (h : core.isFinished cycle = true) :
    (core.tickWith arbiter watch credits cycle).result = .ok () := by
  cases core.tickWith_case arbiter watch credits cycle with
  | idle _ _ _ _ _ hattempt =>
      unfold Tick.result
      rw [hattempt]
  | turned _ index track hchosen _ =>
      rw [isFinished_of_ready (List.mem_of_getElem? hchosen.get) hchosen.ready] at h
      simp at h

/-- A blocked core can tick if the favoured track has an instruction that waits. -/
theorem tick_ok_of_waiting {pick : Node → Nat} {watch : Watch} {track : Track}
    {instr : Instruction} (hblocked : core.isBlocked credits cycle = true)
    (hbusy : core.isBusy cycle = false) (hget : core.tracks[pick core.node]? = some track)
    (hready : track.isReady cycle = true) (hhead : track.head? = some instr)
    (hwaits : (core.handing watch credits cycle instr).reply = .ok .notYet) :
    (core.tickWith (.favouring pick) watch credits cycle).result = .ok () := by
  have hmem := List.mem_of_getElem? hget
  have hturn : core.TurnCase watch credits cycle (pick core.node) track
      (core.tickWith (.favouring pick) watch credits cycle) :=
    tickWith_favouring (isFinished_of_ready hmem hready) hbusy hget hready
      fun other hother => blocked_ready hblocked hother
  have hsame := afterRetiring_of_unset (blocked_ready hblocked hmem hready)
  unfold Tick.result
  cases hturn with
  | drained _ _ _ _ _ hattempt => rw [hattempt]
  | tried found hfound _ _ _ _ hattempt =>
      rw [hsame, hhead, Option.some.injEq] at hfound
      subst hfound
      rw [hattempt, hwaits]

/-- A ready track with a completed instruction brings progress, whatever the arbiter:
a completed instruction leaves its track. -/
theorem progresses_of_completed (arbiter : Arbiter) (watch : Watch) {track : Track}
    (hbusy : core.isBusy cycle = false) (hmem : track ∈ core.tracks)
    (hready : track.isReady cycle = true) (hset : track.marker.isSet = true) :
    (core.tickWith arbiter watch credits cycle).progresses = true := by
  have hfinished := isFinished_of_ready hmem hready
  unfold Tick.progresses
  cases core.tickWith_case arbiter watch credits cycle with
  | idle hidle _ _ _ _ _ => simp [hfinished, hbusy] at hidle
  | turned _ place chosen hchosen hturn =>
      have hretiring := retiring?_isSome (Track.isReady_iff.mp hchosen.ready).1
      rw [hchosen.first track hmem hready hset] at hretiring
      cases hturn with
      | drained _ _ _ _ hretired _ => rw [hretired, Option.isSome_map, hretiring]; rfl
      | tried _ _ _ _ _ hretired _ => rw [hretired, Option.isSome_map, hretiring]; rfl

/-- A favoured track brings progress if its unit takes up the instruction at its head
and no ready track has a completed instruction. -/
theorem progresses_of_taken {pick : Node → Nat} {watch : Watch} {track : Track}
    {instr : Instruction} (hbusy : core.isBusy cycle = false)
    (hget : core.tracks[pick core.node]? = some track) (hready : track.isReady cycle = true)
    (hunset : ∀ other ∈ core.tracks, other.isReady cycle = true → other.marker.isSet = false)
    (hhead : track.head? = some instr)
    (htaken : isTaken (core.handing watch credits cycle instr).reply = true) :
    (core.tickWith (.favouring pick) watch credits cycle).progresses = true := by
  have hmem := List.mem_of_getElem? hget
  have hturn : core.TurnCase watch credits cycle (pick core.node) track
      (core.tickWith (.favouring pick) watch credits cycle) :=
    tickWith_favouring (isFinished_of_ready hmem hready) hbusy hget hready hunset
  have hsame := afterRetiring_of_unset (hunset track hmem hready)
  unfold Tick.progresses
  cases hturn with
  | drained hempty _ _ _ _ _ => rw [hsame, hhead] at hempty; simp at hempty
  | tried found hfound _ _ _ _ hattempt =>
      rw [hsame, hhead, Option.some.injEq] at hfound
      subst hfound
      rw [hattempt, Option.any_some, htaken, Bool.or_true]

/-- A core that is neither busy nor blocked makes progress if the right track is
favoured. -/
theorem exists_progress (hbusy : core.isBusy cycle = false)
    (hblocked : core.isBlocked credits cycle = false) :
    ∃ index, ∀ (pick : Node → Nat) (watch : Watch), pick core.node = index →
      (core.tickWith (.favouring pick) watch credits cycle).progresses = true := by
  obtain ⟨track, hmem, hheld⟩ := List.all_eq_false.mp hblocked
  unfold holdsUp at hheld
  cases hhead : track.head? with
  | none => rw [hhead] at hheld; simp at hheld
  | some instr =>
      rw [hhead] at hheld
      dsimp only at hheld
      have hidle : track.isBusy cycle = false :=
        Bool.eq_false_iff.mpr (List.any_eq_false.mp hbusy track hmem)
      have hready : track.isReady cycle = true :=
        Track.isReady_iff.mpr ⟨Track.isEmpty_eq_false_of_head? hhead, hidle⟩
      obtain ⟨index, hget⟩ := List.mem_iff_getElem?.mp hmem
      refine ⟨index, ?_⟩
      rintro pick watch rfl
      by_cases hcompleted : ∃ other ∈ core.tracks,
          other.isReady cycle = true ∧ other.marker.isSet = true
      · obtain ⟨other, hother, hotherReady, hset⟩ := hcompleted
        exact progresses_of_completed _ watch hbusy hother hotherReady hset
      · have hunset : ∀ other ∈ core.tracks, other.isReady cycle = true →
            other.marker.isSet = false := by
          intro other hother hotherReady
          refine Bool.eq_false_iff.mpr fun hset => ?_
          exact hcompleted ⟨other, hother, hotherReady, hset⟩
        have htaken : isTaken (core.handing Watch.silent credits cycle instr).reply = true := by
          simpa [hunset track hmem hready] using hheld
        exact progresses_of_taken hbusy hget hready hunset hhead
          (isTaken_handing_of_le htaken (Nat.le_refl cycle))

/-! ## What has happened at a blocked core -/

/-- A core that has finished stays so. -/
theorem isFinished_of_le {later : Cycle} (hle : cycle ≤ later)
    (h : core.isFinished cycle = true) : core.isFinished later = true := by
  refine List.all_eq_true.mpr fun track hmem => ?_
  have htrack := List.all_eq_true.mp h track hmem
  unfold Track.isFinished Track.isBusy at htrack ⊢
  rw [Bool.and_eq_true, Bool.not_eq_true'] at htrack ⊢
  exact ⟨htrack.1, isAfter_of_le hle htrack.2⟩

/-- A core that is blocked, now or later, executes nothing: a track that executes has
a marker, and so is not held up. -/
theorem isBusy_of_blocked {now : CreditBoard} {later : Cycle}
    (hrested : core.IsRested cycle) (h : core.isBlocked now later = true) :
    core.isBusy cycle = false := by
  refine List.any_eq_false.mpr ?_
  intro track hmem
  rw [Bool.not_eq_true]
  cases hempty : track.isEmpty with
  | true => exact hrested track hmem hempty
  | false =>
      obtain ⟨instr, hhead⟩ := Track.exists_head? hempty
      have hset := (holdsUp_head Watch.silent (List.all_eq_true.mp h track hmem) hhead).1
      unfold Track.isBusy
      cases hmarker : track.marker with
      | unset => rfl
      | «at» doneAt => rw [hmarker] at hset; simp [Marker.isSet] at hset

/-- An instruction waits if its tick succeeds without progress. -/
theorem waits_of_not_progresses {tick : Tick} {index : Nat} {instr : Instruction}
    {reply : Except TickFault Outcome} (hattempt : tick.attempt = some ⟨index, instr, reply⟩)
    (hok : tick.result = .ok ()) (hprogress : tick.progresses = false) :
    reply = .ok .notYet := by
  unfold Tick.result at hok
  unfold Tick.progresses at hprogress
  rw [hattempt] at hok hprogress
  rw [Bool.or_eq_false_iff, Option.any_some] at hprogress
  rcases reply with fault | doneAt | _
  · simp at hok
  · simp at hprogress
  · rfl

/-- Where a tick that succeeds without progress has left a core blocked, an
instruction waits. -/
theorem TickCase.exists_waiting {watch : Watch} {now : CreditBoard} {later : Cycle} {tick : Tick}
    (h : core.TickCase watch credits cycle tick) (hok : tick.result = .ok ())
    (hprogress : tick.progresses = false) (hrested : core.IsRested cycle) (hle : cycle ≤ later)
    (hblocked : core.isBlocked now later = true) (hfinished : core.isFinished later = false) :
    ∃ (index : Nat) (track : Track) (instr : Instruction), core.tracks[index]? = some track ∧
      track.isReady later = true ∧ track.head? = some instr ∧
      (core.handing watch credits cycle instr).reply = .ok .notYet := by
  cases h with
  | idle hidle _ _ _ _ _ =>
      exfalso
      rcases hidle with hdone | hbusy
      · rw [isFinished_of_le hle hdone] at hfinished
        simp at hfinished
      · rw [isBusy_of_blocked hrested hblocked] at hbusy
        simp at hbusy
  | turned _ index track hchosen hturn =>
      have hheld := List.all_eq_true.mp hblocked track (List.mem_of_getElem? hchosen.get)
      obtain ⟨instr, hinstr⟩ := Track.exists_head? (Track.isReady_iff.mp hchosen.ready).1
      have hsame := afterRetiring_of_unset (holdsUp_head watch hheld hinstr).1
      have hready : track.isReady later = true := by
        obtain ⟨hempty, hidle⟩ := Track.isReady_iff.mp hchosen.ready
        exact Track.isReady_iff.mpr ⟨hempty, isAfter_of_le hle hidle⟩
      refine ⟨index, track, instr, hchosen.get, hready, hinstr, ?_⟩
      cases hturn with
      | drained hempty _ _ _ _ _ => rw [hsame, hinstr] at hempty; simp at hempty
      | tried found hfound _ _ _ _ hattempt =>
          rw [hsame, hinstr, Option.some.injEq] at hfound
          subst hfound
          exact waits_of_not_progresses hattempt hok hprogress

end Favoured

end Core

end CoreArray
