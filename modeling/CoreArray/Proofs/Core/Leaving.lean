import CoreArray.Proofs.Core.InOrder
set_option autoImplicit false

/-!
# What leaves a track (SPEC §4.5)

An instruction is meant to leave its track when a unit has completed it.  The turn of a
track begins with the completed instruction leaving; then the next one is handed to its
unit, and if that refuses, the marker stays the one of the instruction that has left.  At
the next turn of the track the refused instruction is taken for completed.

`departures` says that there is no other way.  What leaves a track was tried at the last
turn of the track: a unit completed it, or it was refused at a tick at which an instruction
left before it.  A refused instruction before which nothing left stays until a unit
completes it.
-/

namespace CoreArray

/-- Whether a tick is the last turn of a track in a past. -/
def IsLastTurn (past : List PastTick) (index : Nat) (last : PastTick) : Prop :=
  last.tick.isTurnOf index = true ∧ ∃ between before, past = between ++ last :: before ∧
    ∀ entry ∈ between, entry.tick.isTurnOf index = false

theorem Tick.isTurnOf_eq_false {tick : Tick} {index : Nat} :
    tick.isTurnOf index = false ↔ tick.retiredOn index = none ∧ tick.attemptOn index = none := by
  unfold isTurnOf
  rw [Bool.or_eq_false_iff, Option.isSome_eq_false_iff, Option.isSome_eq_false_iff,
    Option.isNone_iff_eq_none, Option.isNone_iff_eq_none]

theorem Tick.isTurnOf_of_attemptOn {tick : Tick} {index : Nat} {attempt : Attempt}
    (h : tick.attemptOn index = some attempt) : tick.isTurnOf index = true := by
  unfold isTurnOf
  rw [h, Option.isSome_some, Bool.or_true]

theorem IsLastTurn.cons {past : List PastTick} {index : Nat} {last entry : PastTick}
    (h : IsLastTurn past index last) (hentry : entry.tick.isTurnOf index = false) :
    IsLastTurn (entry :: past) index last := by
  obtain ⟨hturn, between, before, rfl, hbetween⟩ := h
  refine ⟨hturn, entry :: between, before, rfl, fun other hmem => ?_⟩
  rcases List.mem_cons.mp hmem with rfl | hmem
  · exact hentry
  · exact hbetween other hmem

namespace Core

/-- Whether an instruction heads the track at a place, which has a marker or has none. -/
def Heads (core : Core) (index : Nat) (instr : Instruction) (isSet : Bool) : Prop :=
  ∃ track, core.tracks[index]? = some track ∧ track.head? = some instr ∧
    track.marker.isSet = isSet

section Ticks

variable {watch : Watch} {core : Core} {credits : CreditBoard} {cycle : Cycle} {tick : Tick}
  {index : Nat} {instr : Instruction}

/-! ## One tick -/

/-- If the head of a track has no marker, nothing leaves the track. -/
theorem retiring?_of_unset {track : Track} (h : track.marker.isSet = false) :
    retiring? track = none := by
  unfold retiring?
  simp [h]

theorem retiring?_of_set {track : Track} (h : track.marker.isSet = true) :
    retiring? track = track.head? := by
  unfold retiring?
  simp [h]

/-- Between its turns a track stays as it is. -/
theorem TickCase.heads_of_not_turn (h : core.TickCase watch credits cycle tick) {isSet : Bool}
    (hheads : core.Heads index instr isSet) (hturn : tick.isTurnOf index = false) :
    tick.core.Heads index instr isSet := by
  obtain ⟨track, hget, hhead, hset⟩ := hheads
  obtain ⟨hretired, hattempt⟩ := Tick.isTurnOf_eq_false.mp hturn
  obtain ⟨after, hafter, hcase⟩ := h.track_case hget
  cases hcase with
  | passed hsame _ _ => exact ⟨after, hafter, hsame ▸ hhead, hsame ▸ hset⟩
  | drained hready hempty _ hgone _ =>
      have hleaves := retiring?_isSome (Track.isReady_iff.mp hready).1
      rw [← hgone, hretired, Option.isSome_none] at hleaves
      rw [afterRetiring_of_unset hleaves.symm, hhead] at hempty
      simp at hempty
  | tried _ _ _ _ _ _ htried => rw [hattempt] at htried; simp at htried

/-- An instruction that is refused heads its track, which has a marker exactly if another
instruction left it at that tick. -/
theorem TickCase.heads_of_refused (h : core.TickCase watch credits cycle tick) {fault : TickFault}
    (hattempt : tick.attemptOn index = some ⟨index, instr, .error fault⟩) :
    tick.core.Heads index instr (tick.retiredOn index).isSome := by
  obtain ⟨htried, -⟩ := Tick.attempt_of_attemptOn hattempt
  obtain ⟨track, hchosen, -⟩ := h.of_attempt htried
  obtain ⟨after, hafter, hcase⟩ := h.track_case hchosen.get
  cases hcase with
  | passed _ _ hnone => rw [hattempt] at hnone; simp at hnone
  | drained _ _ _ _ hnone => rw [hattempt] at hnone; simp at hnone
  | tried hready other reply hhead hsame hretired hother =>
      rw [hattempt, Option.some.injEq, Attempt.mk.injEq] at hother
      obtain ⟨-, rfl, rfl⟩ := hother
      refine ⟨after, hafter, hsame ▸ hhead, ?_⟩
      rw [hretired, retiring?_isSome (Track.isReady_iff.mp hready).1, hsame]
      unfold afterRetiring
      split
      · rfl
      · rfl

/-- An instruction without a marker stays at the head of its track unless it is completed,
and if its track has a turn it is tried. -/
theorem TickCase.heads_of_unset (h : core.TickCase watch credits cycle tick)
    (hheads : core.Heads index instr false) :
    tick.retiredOn index = none ∧
      (tick.issuedOn index = none → tick.core.Heads index instr false) := by
  obtain ⟨track, hget, hhead, hset⟩ := hheads
  obtain ⟨after, hafter, hcase⟩ := h.track_case hget
  cases hcase with
  | passed hsame hretired _ =>
      exact ⟨hretired, fun _ => ⟨after, hafter, hsame ▸ hhead, hsame ▸ hset⟩⟩
  | drained _ hempty _ _ _ =>
      rw [afterRetiring_of_unset hset, hhead] at hempty
      simp at hempty
  | tried _ other reply hnext hsame hretired hattempt =>
      rw [afterRetiring_of_unset hset] at hnext hsame
      refine ⟨hretired.trans (retiring?_of_unset hset), fun hissued => ?_⟩
      refine ⟨after, hafter, ?_, ?_⟩
      · rw [hsame]
        unfold Track.head? at hhead ⊢
        rw [Track.instructions_answered]
        exact hhead
      · -- Only a completion sets a marker.
        rw [hsame]
        cases reply with
        | error fault => exact hset
        | ok outcome =>
            cases outcome with
            | notYet => rfl
            | complete doneAt =>
                rw [Tick.issuedOn, hattempt] at hissued
                simp [Attempt.issue?] at hissued

/-- An instruction at the head of a track with a marker leaves it at the next turn of the
track. -/
theorem TickCase.retiredOn_of_set (h : core.TickCase watch credits cycle tick)
    (hheads : core.Heads index instr true) (hturn : tick.isTurnOf index = true) :
    tick.retiredOn index = some instr := by
  obtain ⟨track, hget, hhead, hset⟩ := hheads
  obtain ⟨after, -, hcase⟩ := h.track_case hget
  cases hcase with
  | passed _ hretired hattempt =>
      rw [Tick.isTurnOf_eq_false.mpr ⟨hretired, hattempt⟩] at hturn
      simp at hturn
  | drained _ _ _ hretired _ => rw [hretired, retiring?_of_set hset, hhead]
  | tried _ _ _ _ _ hretired _ => rw [hretired, retiring?_of_set hset, hhead]

/-- What leaves a track headed it, with a marker that lies not ahead. -/
theorem TickCase.of_retiredOn (h : core.TickCase watch credits cycle tick)
    (hretired : tick.retiredOn index = some instr) :
    ∃ track doneAt, core.tracks[index]? = some track ∧ track.head? = some instr ∧
      track.marker = .at doneAt ∧ doneAt ≤ cycle := by
  cases h with
  | idle _ _ _ _ hnone _ => rw [Tick.retiredOn, hnone] at hretired; simp at hretired
  | turned _ place track hchosen hcase =>
      rw [hcase.retiredOn index] at hretired
      split at hretired
      · next hplace =>
          subst hplace
          cases hmarker : track.marker with
          | unset =>
              rw [retiring?_of_unset (by rw [hmarker]; rfl)] at hretired
              simp at hretired
          | «at» doneAt =>
              rw [retiring?_of_set (by rw [hmarker]; rfl)] at hretired
              have hreached := (Track.isReady_iff.mp hchosen.ready).2
              rw [hmarker] at hreached
              exact ⟨track, doneAt, hchosen.get, hretired, hmarker,
                Nat.le_of_not_lt (of_decide_eq_false hreached)⟩
      · simp at hretired

end Ticks

/-! ## The last turn of a track -/

section Pasts

variable {spec : CoreSpec} {tracks : List (List Instruction)} {tensors : TensorTable} {seed : Nat}
  {start core : Core} {past : List PastTick} {index : Nat} {instr : Instruction}

/-- A track that has a marker has had a turn; at its last turn its head was completed, or
refused after another instruction had left. -/
theorem exists_lastTurn (h : Past (ofTracks spec tracks tensors seed) past core) {track : Track}
    {doneAt : Cycle} (hget : core.tracks[index]? = some track) (hhead : track.head? = some instr)
    (hmarker : track.marker = .at doneAt) :
    ∃ last reply, IsLastTurn past index last ∧
      last.tick.attemptOn index = some ⟨index, instr, reply⟩ ∧
      (reply = .ok (.complete doneAt) ∨
        (∃ fault, reply = .error fault) ∧ (last.tick.retiredOn index).isSome = true) := by
  induction h generalizing track with
  | start =>
      unfold ofTracks at hget
      rw [List.getElem?_map] at hget
      obtain ⟨instrs, -, rfl⟩ := Option.map_eq_some_iff.mp hget
      cases hmarker
  | @tick past before hpast arbiter watch credits cycle ih =>
      have hcase := tickWith_case arbiter watch before credits cycle
      have hlt := (List.getElem?_eq_some_iff.mp hget).1
      rw [hcase.length_tracks] at hlt
      obtain ⟨after, hafter, htrack⟩ := hcase.track_case (List.getElem?_eq_getElem hlt)
      have hsame : after = track := Option.some.inj (hafter.symm.trans hget)
      subst hsame
      cases htrack with
      | passed hold hretired hattempt =>
          obtain ⟨last, reply, hlast, hrest⟩ := ih (List.getElem?_eq_getElem hlt)
            (hold ▸ hhead) (hold ▸ hmarker)
          exact ⟨last, reply, hlast.cons (Tick.isTurnOf_eq_false.mpr ⟨hretired, hattempt⟩), hrest⟩
      | drained _ hempty hnew _ _ =>
          rw [hnew, hempty] at hhead
          simp at hhead
      | tried hready other reply hnext hnew hretired hattempt =>
          have hother : other = instr := by
            rw [hnew] at hhead
            unfold Track.head? at hhead hnext
            rw [Track.instructions_answered, hnext, Option.some.injEq] at hhead
            exact hhead
          subst hother
          refine ⟨_, reply, ⟨Tick.isTurnOf_of_attemptOn hattempt, [], past, rfl, by simp⟩,
            hattempt, ?_⟩
          rw [hnew] at hmarker
          cases reply with
          | ok outcome =>
              cases outcome with
              | notYet => cases hmarker
              | complete found =>
                  refine .inl ?_
                  cases hmarker
                  rfl
          | error fault =>
              -- The marker is the one that the track had before.
              refine .inr ⟨⟨fault, rfl⟩, ?_⟩
              rw [hretired, retiring?_isSome (Track.isReady_iff.mp hready).1]
              unfold afterRetiring at hmarker
              split at hmarker
              · next hset => exact hset
              · next hunset =>
                  rw [Track.answered] at hmarker
                  rw [hmarker] at hunset
                  exact absurd rfl hunset
  | exchange _ port ih => exact ih hget hhead hmarker

/-- Since its last turn, at which it was refused, an instruction heads its track. -/
theorem heads_of_lastTurn (h : Past start past core) {last : PastTick}
    (hlast : IsLastTurn past index last) {fault : TickFault}
    (hattempt : last.tick.attemptOn index = some ⟨index, instr, .error fault⟩) :
    core.Heads index instr (last.tick.retiredOn index).isSome := by
  obtain ⟨-, between, before, hwhole, hbetween⟩ := hlast
  induction h generalizing between with
  | start => simp at hwhole
  | @tick past old hpast arbiter watch credits cycle ih =>
      have hcase := tickWith_case arbiter watch old credits cycle
      cases between with
      | nil =>
          rw [List.nil_append, List.cons.injEq] at hwhole
          obtain ⟨rfl, rfl⟩ := hwhole
          exact hcase.heads_of_refused hattempt
      | cons entry between =>
          rw [List.cons_append, List.cons.injEq] at hwhole
          obtain ⟨rfl, hrest⟩ := hwhole
          have hbefore := ih between hrest fun other hmem =>
            hbetween other (List.mem_cons_of_mem _ hmem)
          exact hcase.heads_of_not_turn hbefore (hbetween _ List.mem_cons_self)
  | exchange _ port ih => exact ih between hwhole hbetween

/-- An instruction that was refused, while nothing left its track, stays until it is
completed. -/
theorem stays_of_refused {later before : List PastTick} {last : PastTick}
    (h : Past start (later ++ last :: before) core) {fault : TickFault}
    (hattempt : last.tick.attemptOn index = some ⟨index, instr, .error fault⟩)
    (hretired : last.tick.retiredOn index = none)
    (hissued : ∀ entry ∈ later, entry.tick.issuedOn index = none) :
    core.Heads index instr false ∧ ∀ entry ∈ later, entry.tick.retiredOn index = none := by
  generalize hwhole : later ++ last :: before = whole at h
  induction h generalizing later with
  | start => simp at hwhole
  | @tick past old hpast arbiter watch credits cycle ih =>
      have hcase := tickWith_case arbiter watch old credits cycle
      cases later with
      | nil =>
          rw [List.nil_append, List.cons.injEq] at hwhole
          obtain ⟨rfl, rfl⟩ := hwhole
          have hheads := hcase.heads_of_refused hattempt
          rw [hretired] at hheads
          exact ⟨hheads, by simp⟩
      | cons entry later =>
          rw [List.cons_append, List.cons.injEq] at hwhole
          obtain ⟨rfl, hrest⟩ := hwhole
          obtain ⟨hbefore, hstayed⟩ := ih (fun other hmem =>
            hissued other (List.mem_cons_of_mem _ hmem)) hrest
          obtain ⟨hnone, hheads⟩ := hcase.heads_of_unset hbefore
          refine ⟨hheads (hissued _ List.mem_cons_self), fun other hmem => ?_⟩
          rcases List.mem_cons.mp hmem with rfl | hmem
          · exact hnone
          · exact hstayed other hmem
  | exchange _ port ih => exact ih hissued hwhole

/-- How instructions leave the tracks of a core. -/
structure Departures (past : List PastTick) (core : Core) : Prop where
  /-- What leaves a track was tried at its last turn: a unit completed it, or it was refused
  at a tick at which an instruction left before it. -/
  tried : ∀ (later earlier : List PastTick) (entry : PastTick) (index : Nat)
    (instr : Instruction), past = later ++ entry :: earlier →
    entry.tick.retiredOn index = some instr →
    ∃ last reply, IsLastTurn earlier index last ∧
      last.tick.attemptOn index = some ⟨index, instr, reply⟩ ∧
      ((∃ doneAt, reply = .ok (.complete doneAt) ∧ doneAt ≤ entry.cycle) ∨
        (∃ fault, reply = .error fault) ∧ (last.tick.retiredOn index).isSome = true)
  /-- At the next turn of its track a refused instruction leaves it, exactly if one left
  before it. -/
  refused : ∀ (later earlier : List PastTick) (entry last : PastTick) (index : Nat)
    (instr : Instruction) (fault : TickFault), past = later ++ entry :: earlier →
    IsLastTurn earlier index last →
    last.tick.attemptOn index = some ⟨index, instr, .error fault⟩ →
    entry.tick.isTurnOf index = true →
    entry.tick.retiredOn index = if (last.tick.retiredOn index).isSome then some instr else none
  /-- A refused instruction before which none left stays until a unit completes it. -/
  stays : ∀ (later before : List PastTick) (last : PastTick) (index : Nat)
    (instr : Instruction) (fault : TickFault), past = later ++ last :: before →
    last.tick.attemptOn index = some ⟨index, instr, .error fault⟩ →
    last.tick.retiredOn index = none →
    (∀ entry ∈ later, entry.tick.issuedOn index = none) →
    core.Heads index instr false ∧ ∀ entry ∈ later, entry.tick.retiredOn index = none

/-- However a core ticks, an instruction that leaves its track without having been completed
was refused at a tick at which another had left before it; and every instruction that is so
refused leaves at the next turn of its track. -/
theorem departures (h : Past (ofTracks spec tracks tensors seed) past core) :
    Departures past core := by
  refine ⟨?_, ?_, ?_⟩
  · intro later earlier entry index instr hpast hretired
    subst hpast
    obtain ⟨hbefore, -, watch, hcase⟩ := h.of_append
    obtain ⟨track, doneAt, hget, hhead, hmarker, hle⟩ := hcase.of_retiredOn hretired
    obtain ⟨last, reply, hlast, hattempt, hreply⟩ := exists_lastTurn hbefore hget hhead hmarker
    exact ⟨last, reply, hlast, hattempt, hreply.imp_left fun heq => ⟨doneAt, heq, hle⟩⟩
  · intro later earlier entry last index instr fault hpast hlast hattempt hturn
    subst hpast
    obtain ⟨hbefore, -, watch, hcase⟩ := h.of_append
    have hheads := heads_of_lastTurn hbefore hlast hattempt
    cases hleft : (last.tick.retiredOn index).isSome with
    | true =>
        rw [hleft] at hheads
        exact hcase.retiredOn_of_set hheads hturn
    | false =>
        rw [hleft] at hheads
        exact (hcase.heads_of_unset hheads).1
  · intro later before last index instr fault hpast hattempt hretired hissued
    subst hpast
    exact stays_of_refused h hattempt hretired hissued

end Pasts

/-- The tracks of a core that can sleep but not poll. -/
def sleepThenPoll : List (List Instruction) :=
  [[.plain "CPU" "sleep" [0], .plain "CPU" "poll" []]]

/-- The ticks of a core with these tracks: the sleep is completed, the poll is refused, and
the track has another turn. -/
def sleepThenPollRun : List PastTick × Core :=
  (ofTracks { (default : CoreSpec) with latencies := LatencyTable.empty.set .cpu "sleep" (.ofNat 1) }
    sleepThenPoll .empty 0).pastTicks .seeded .silent (.allOpened 1) [2, 1, 0]

/-- The poll leaves the track at its last turn, as it was refused when the sleep had left. -/
theorem sleep_then_poll_departures :
    (sleepThenPollRun.1.map fun entry => entry.tick.retiredOn 0) =
        [some (.plain "CPU" "poll" []), some (.plain "CPU" "sleep" [0]), none] ∧
      (sleepThenPollRun.1.map fun entry => entry.tick.result.isOk) = [true, false, true] ∧
      Departures sleepThenPollRun.1 sleepThenPollRun.2 :=
  ⟨by decide +kernel, by decide +kernel, departures (past_pastTicks _ _ _ _ _)⟩

/-- Whether all that left a track had been completed by a unit before. -/
def RetiresCompleted (past : List PastTick) : Prop :=
  ∀ (later earlier : List PastTick) (entry : PastTick) (index : Nat) (instr : Instruction),
    past = later ++ entry :: earlier → entry.tick.retiredOn index = some instr →
    ∃ before ∈ earlier, ∃ doneAt, before.tick.issuedOn index = some (instr, doneAt)

/-- Where ticks fail it is not so: the poll leaves the track, and no unit completed it. -/
theorem refused_poll_leaves :
    ¬ ∀ (spec : CoreSpec) (tracks : List (List Instruction)) (tensors : TensorTable) (seed : Nat)
      (past : List PastTick) (core : Core), Past (ofTracks spec tracks tensors seed) past core →
      IsForward past → RetiresCompleted past := by
  intro hall
  have hforward : IsForward sleepThenPollRun.1 := by
    unfold IsForward
    decide +kernel
  have hleft : (sleepThenPollRun.1.head?.bind fun entry => entry.tick.retiredOn 0) =
      some (.plain "CPU" "poll" []) := by decide +kernel
  have hissued : ∀ before ∈ sleepThenPollRun.1.tail,
      (before.tick.issuedOn 0).map Prod.fst ≠ some (.plain "CPU" "poll" []) := by decide +kernel
  obtain ⟨before, hmem, doneAt, hbefore⟩ := hall _ _ _ _ sleepThenPollRun.1 sleepThenPollRun.2
    (past_pastTicks _ _ _ _ _) hforward [] sleepThenPollRun.1.tail _ 0 _ rfl hleft
  exact hissued before hmem (congrArg (Option.map Prod.fst) hbefore)

end Core

end CoreArray
