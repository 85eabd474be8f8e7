import CoreArray.Proofs.Core.Past
set_option autoImplicit false

/-!
# Tracks are not interleaved (SPEC §4.5)

The arbiter orders the tracks anew at every tick, and yet the tracks of a core are not
interleaved at will.  The choice prefers a track with a marker, and there is at most one
such track that still has instructions: it holds the turn, and keeps it until an
instruction of it has to wait or none is left.  Neither a tick that fails nor a clock
that goes back makes a difference.
-/

namespace CoreArray

/-- Whether a track holds the turn: it has a marker, and instructions. -/
def Track.holdsTurn (track : Track) : Bool := !track.isEmpty && track.marker.isSet

/-- Whether the track at a place holds the turn. -/
def Core.holds (core : Core) (index : Nat) : Bool := (core.tracks[index]?).any Track.holdsTurn

/-- Whether a track gives up its turn at a tick: its instruction has to wait, or none is
left. -/
def Tick.yieldsOn (tick : Tick) (index : Nat) : Bool :=
  ((tick.attemptOn index).any fun attempt =>
    match attempt.reply with
    | .ok .notYet => true
    | _ => false) || (tick.core.tracks[index]?).all Track.isEmpty

theorem Track.holdsTurn_iff {track : Track} :
    track.holdsTurn = true ↔ track.isEmpty = false ∧ track.marker.isSet = true := by
  simp [holdsTurn]

theorem Tick.isEmpty_of_not_yieldsOn {tick : Tick} {index : Nat} {track : Track}
    (h : tick.yieldsOn index = false) (hget : tick.core.tracks[index]? = some track) :
    track.isEmpty = false := by
  unfold yieldsOn at h
  rw [Bool.or_eq_false_iff, hget] at h
  exact h.2

theorem Tick.reply_of_not_yieldsOn {tick : Tick} {index : Nat} {attempt : Attempt}
    (h : tick.yieldsOn index = false) (hattempt : tick.attemptOn index = some attempt) :
    attempt.reply ≠ .ok .notYet := by
  intro hreply
  unfold yieldsOn at h
  rw [Bool.or_eq_false_iff, hattempt, Option.any_some, hreply] at h
  simp at h

namespace Core

/-- No two tracks hold the turn. -/
def IsExclusive (core : Core) : Prop :=
  ∀ first second, core.holds first = true → core.holds second = true → first = second

theorem holds_iff {core : Core} {index : Nat} :
    core.holds index = true ↔
      ∃ track, core.tracks[index]? = some track ∧ track.holdsTurn = true := by
  unfold holds
  rw [Option.any_eq_true]

section Ticks

variable {watch : Watch} {core : Core} {credits : CreditBoard} {cycle : Cycle} {tick : Tick}

/-! ## The turn is held by the track that has it -/

/-- A track that holds the turn of a core that is not busy can go on. -/
theorem isReady_of_holdsTurn {track : Track} (hbusy : core.isBusy cycle = false)
    (hmem : track ∈ core.tracks) (hholds : track.holdsTurn = true) :
    track.isReady cycle = true := by
  have hidle := Bool.eq_false_iff.mpr (List.any_eq_false.mp hbusy track hmem)
  unfold Track.isReady
  rw [(Track.holdsTurn_iff.mp hholds).1, hidle]
  rfl

/-- If a track holds the turn, it is the one that is chosen. -/
theorem Chosen.eq_of_holds {index other : Nat} {track : Track}
    (h : core.Chosen cycle index track) (hbusy : core.isBusy cycle = false)
    (hexclusive : core.IsExclusive) (hholds : core.holds other = true) : other = index := by
  obtain ⟨holder, hget, hturn⟩ := holds_iff.mp hholds
  have hmem := List.mem_of_getElem? hget
  have hset := h.first holder hmem (isReady_of_holdsTurn hbusy hmem hturn)
    (Track.holdsTurn_iff.mp hturn).2
  have hchosen : track.holdsTurn = true :=
    Track.holdsTurn_iff.mpr ⟨(Track.isReady_iff.mp h.ready).1, hset⟩
  exact hexclusive other index hholds (holds_iff.mpr ⟨track, h.get, hchosen⟩)

/-- The turn of a track leaves the others alone. -/
theorem TurnCase.holds_of_ne {index other : Nat} {track : Track}
    (h : core.TurnCase watch credits cycle index track tick) (hne : index ≠ other) :
    tick.core.holds other = core.holds other := by
  unfold holds
  cases h with
  | drained _ htracks _ _ _ _ => rw [htracks, List.getElem?_set_ne hne]
  | tried _ _ htracks _ _ _ _ => rw [htracks, List.getElem?_set_ne hne]

/-- After a tick no two tracks hold the turn if before it no two did. -/
theorem TickCase.isExclusive (h : core.TickCase watch credits cycle tick)
    (hexclusive : core.IsExclusive) : tick.core.IsExclusive := by
  cases h with
  | idle _ htracks _ _ _ _ =>
      intro first second hfirst hsecond
      unfold holds at hfirst hsecond
      rw [htracks] at hfirst hsecond
      exact hexclusive first second hfirst hsecond
  | turned hbusy index track hchosen hturn =>
      -- A track that holds the turn afterwards held it before, or it had its turn.
      have honly (other : Nat) (hholds : tick.core.holds other = true) : other = index := by
        by_cases hindex : index = other
        · exact hindex.symm
        · rw [hturn.holds_of_ne hindex] at hholds
          exact hchosen.eq_of_holds hbusy hexclusive hholds
      intro first second hfirst hsecond
      rw [honly first hfirst, honly second hsecond]

/-- What is tried at a tick is tried on the track that holds the turn, if one does. -/
theorem TickCase.attempt_of_holds (h : core.TickCase watch credits cycle tick)
    (hexclusive : core.IsExclusive) {index : Nat} (hholds : core.holds index = true)
    {attempt : Attempt} (hattempt : tick.attempt = some attempt) : attempt.track = index := by
  cases h with
  | idle _ _ _ _ _ hnone => rw [hattempt] at hnone; simp at hnone
  | turned hbusy place track hchosen hturn =>
      rw [hchosen.eq_of_holds hbusy hexclusive hholds]
      cases hturn with
      | drained _ _ _ _ _ hnone => rw [hattempt] at hnone; simp at hnone
      | tried _ _ _ _ _ _ htried =>
          rw [hattempt, Option.some.injEq] at htried
          rw [htried]

/-! ## The turn is kept -/

/-- The track of an instruction that is taken up holds the turn. -/
theorem TickCase.holds_of_issued (h : core.TickCase watch credits cycle tick) {index : Nat}
    (hissued : (tick.issuedOn index).isSome = true) : tick.core.holds index = true := by
  obtain ⟨issue, hissue⟩ := Option.isSome_iff_exists.mp hissued
  obtain ⟨attempt, hon, htaken⟩ := Option.bind_eq_some_iff.mp hissue
  obtain ⟨hattempt, rfl⟩ := Tick.attempt_of_attemptOn hon
  obtain ⟨track, -, hhead, -, hafter⟩ := h.of_attempt hattempt
  have hnonempty := Track.isEmpty_eq_false_of_head? hhead
  obtain ⟨index, instr, reply⟩ := attempt
  refine holds_iff.mpr ⟨_, hafter, Track.holdsTurn_iff.mpr ?_⟩
  cases reply with
  | error fault => simp [Attempt.issue?] at htaken
  | ok outcome =>
      cases outcome with
      | notYet => simp [Attempt.issue?] at htaken
      | complete doneAt => exact ⟨hnonempty, rfl⟩

theorem marker_afterRetiring (track : Track) :
    (afterRetiring track).marker = track.marker := by
  unfold afterRetiring
  split
  · rfl
  · rfl

/-- A track that holds the turn holds it after a tick at which it does not give it up. -/
theorem TickCase.holds_of_holds (h : core.TickCase watch credits cycle tick) {index : Nat}
    (hholds : core.holds index = true) (hyields : tick.yieldsOn index = false) :
    tick.core.holds index = true := by
  obtain ⟨track, hget, hturn⟩ := holds_iff.mp hholds
  obtain ⟨after, hafter, hcase⟩ := h.track_case hget
  have hnonempty := Tick.isEmpty_of_not_yieldsOn hyields hafter
  have hset := (Track.holdsTurn_iff.mp hturn).2
  refine holds_iff.mpr ⟨after, hafter, Track.holdsTurn_iff.mpr ⟨hnonempty, ?_⟩⟩
  cases hcase with
  | passed hsame _ _ => rw [hsame, hset]
  | drained _ _ hsame _ _ => rw [hsame, marker_afterRetiring, hset]
  | tried _ instr reply _ hsame _ hattempt =>
      have hreply : reply ≠ .ok .notYet := Tick.reply_of_not_yieldsOn hyields hattempt
      rw [hsame]
      cases reply with
      | error fault => exact (congrArg Marker.isSet (marker_afterRetiring track)).trans hset
      | ok outcome =>
          cases outcome with
          | notYet => simp at hreply
          | complete doneAt => rfl

end Ticks

/-! ## Over the past of a core -/

section Pasts

variable {spec : CoreSpec} {tracks : List (List Instruction)} {tensors : TensorTable} {seed : Nat}
  {start core : Core} {past : List PastTick}

theorem isExclusive_of_past (h : Past (ofTracks spec tracks tensors seed) past core) :
    core.IsExclusive := by
  induction h with
  | start =>
      -- No track has begun.
      intro first second hfirst
      obtain ⟨track, hget, hturn⟩ := holds_iff.mp hfirst
      unfold ofTracks at hget
      rw [List.getElem?_map] at hget
      obtain ⟨instrs, -, rfl⟩ := Option.map_eq_some_iff.mp hget
      simp [Track.holdsTurn, Track.ofInstructions, Marker.isSet] at hturn
  | tick _ arbiter watch credits cycle ih =>
      exact (tickWith_case arbiter watch _ credits cycle).isExclusive ih
  | exchange _ port ih => exact ih

/-- Since one of its instructions was taken up, a track that has not given up its turn
holds it. -/
theorem holds_of_past {between earlier : List PastTick} {issue : PastTick} {index : Nat}
    (h : Past start (between ++ issue :: earlier) core)
    (hissued : (issue.tick.issuedOn index).isSome = true)
    (hkeeps : ∀ entry ∈ between, entry.tick.yieldsOn index = false) :
    core.holds index = true := by
  generalize hwhole : between ++ issue :: earlier = whole at h
  induction h generalizing between with
  | start => simp at hwhole
  | @tick past before hpast arbiter watch credits cycle ih =>
      have hcase := tickWith_case arbiter watch before credits cycle
      cases between with
      | nil =>
          rw [List.nil_append, List.cons.injEq] at hwhole
          obtain ⟨rfl, rfl⟩ := hwhole
          exact hcase.holds_of_issued hissued
      | cons last between =>
          rw [List.cons_append, List.cons.injEq] at hwhole
          obtain ⟨rfl, hrest⟩ := hwhole
          have hbefore := ih (fun entry hmem => hkeeps entry (List.mem_cons_of_mem _ hmem)) hrest
          exact hcase.holds_of_holds hbefore (hkeeps _ List.mem_cons_self)
  | exchange _ port ih => exact ih hkeeps hwhole

/-- However a core ticks, no two of its tracks hold the turn; and once an instruction of
a track has been taken up, what is tried is on that track until it gives up its turn. -/
theorem tracks_not_interleaved (h : Past (ofTracks spec tracks tensors seed) past core) :
    core.IsExclusive ∧
      ∀ (newer between earlier : List PastTick) (last issue : PastTick) (index : Nat),
        past = newer ++ last :: (between ++ issue :: earlier) →
        (issue.tick.issuedOn index).isSome = true →
        (∀ entry ∈ between, entry.tick.yieldsOn index = false) →
        ∀ attempt, last.tick.attempt = some attempt → attempt.track = index := by
  refine ⟨isExclusive_of_past h, ?_⟩
  intro newer between earlier last issue index hpast hissued hkeeps attempt hattempt
  subst hpast
  obtain ⟨hbefore, -, watch, hcase⟩ := h.of_append
  have hholds := holds_of_past hbefore hissued hkeeps
  exact hcase.attempt_of_holds (isExclusive_of_past hbefore) hholds hattempt

end Pasts

/-- The tracks of a core that can sleep but not poll. -/
def pollAmongSleeps : List (List Instruction) :=
  [[.plain "CPU" "sleep" [1], .plain "CPU" "poll" [], .plain "CPU" "sleep" [0]],
    [.plain "CPU" "sleep" [1]]]

/-- The ticks of a core with these tracks.  The clock goes back once, and the poll is
refused. -/
def refusedPollRun : List PastTick × Core :=
  (ofTracks { (default : CoreSpec) with latencies := LatencyTable.empty.set .cpu "sleep" (.ofNat 1) }
    pollAmongSleeps .empty 1).pastTicks .seeded .silent (.allOpened 1) [5, 4, 2, 3]

/-- The first track keeps the turn while the clock goes back, and after the tick that
fails. -/
theorem poll_among_sleeps_keeps_turn :
    (refusedPollRun.1.map fun entry => entry.tick.result.isOk) = [true, false, true, true] ∧
      refusedPollRun.2.IsExclusive ∧
      ∀ attempt, (refusedPollRun.1.head?.bind fun entry => entry.tick.attempt) = some attempt →
        attempt.track = 0 := by
  obtain ⟨hexclusive, hturn⟩ := tracks_not_interleaved (past_pastTicks .seeded .silent
    (.allOpened 1) (ofTracks { (default : CoreSpec) with
      latencies := LatencyTable.empty.set .cpu "sleep" (.ofNat 1) } pollAmongSleeps .empty 1)
    [5, 4, 2, 3])
  refine ⟨by decide +kernel, hexclusive, hturn [] [_, _] [] _ _ 0 rfl ?_ ?_⟩
  · decide +kernel
  · decide +kernel

end Core

end CoreArray
