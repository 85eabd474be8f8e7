import CoreArray.Proofs.Core.Turn
import CoreArray.Proofs.Sums
set_option autoImplicit false

/-!
# Progress at a tick (SPEC §4.5)

A tick makes progress if an instruction leaves its track or is taken up by its
unit.  The work that is left on a core, twice the number of its instructions less
one for every instruction that is under way, falls at every tick that makes
progress; a tick that makes none leaves the tracks and the datapath as they are.
-/

namespace CoreArray

/-- Whether an instruction leaves its track or is taken up at a tick. -/
def Tick.progresses (tick : Tick) : Bool :=
  tick.retired.isSome || tick.attempt.any fun attempt => isTaken attempt.reply

/-- The work that is left on a track of which the marker and the length are
known. -/
def outlineWork : Marker × Nat → Nat
  | (_, 0) => 0
  | (.unset, left + 1) => 2 * (left + 1)
  | (.at _, left + 1) => 2 * left + 1

/-- The work that is left on a track. -/
def Track.work (track : Track) : Nat := outlineWork track.outline

namespace Core

/-- The work that is left on a core. -/
def work (core : Core) : Nat := (core.tracks.map Track.work).sum

/-! ## The turn of a track -/

/-- What a track loses when its completed instruction leaves and the next one is
answered. -/
theorem work_answered_lt {track : Track} (hempty : track.isEmpty = false)
    (hset : track.marker.isSet = true) (reply : Except TickFault Outcome) :
    ((afterRetiring track).answered reply).work < track.work := by
  obtain ⟨instructions, marker⟩ := track
  cases marker with
  | unset => simp [Marker.isSet] at hset
  | «at» doneAt =>
      cases instructions with
      | nil => simp [Track.isEmpty] at hempty
      | cons first rest =>
          cases rest with
          | nil =>
              rcases reply with fault | doneAt' | _ <;>
                simp [afterRetiring, Track.answered, Track.work, Track.outline, Track.length,
                  Marker.isSet, outlineWork]
          | cons next rest =>
              rcases reply with fault | doneAt' | _ <;>
                simp [afterRetiring, Track.answered, Track.work, Track.outline, Track.length,
                  Marker.isSet, Marker.ofOutcome, outlineWork]

/-- What a track loses when its first instruction is taken up. -/
theorem work_taken_lt {track : Track} (hempty : track.isEmpty = false)
    (hset : track.marker.isSet = false) {reply : Except TickFault Outcome}
    (htaken : isTaken reply = true) :
    ((afterRetiring track).answered reply).work < track.work := by
  obtain ⟨doneAt, rfl⟩ := isTaken_iff.mp htaken
  obtain ⟨instructions, marker⟩ := track
  cases marker with
  | «at» doneAt' => simp [Marker.isSet] at hset
  | unset =>
      cases instructions with
      | nil => simp [Track.isEmpty] at hempty
      | cons first rest =>
          simp [afterRetiring, Track.answered, Track.work, Track.outline, Track.length,
            Marker.isSet, Marker.ofOutcome, outlineWork]
          omega

/-- A track without a marker whose first instruction is not taken up stays as it
is. -/
theorem answered_eq {track : Track} (hset : track.marker.isSet = false)
    {reply : Except TickFault Outcome} (htaken : isTaken reply = false) :
    (afterRetiring track).answered reply = track := by
  obtain ⟨instructions, marker⟩ := track
  cases marker with
  | «at» doneAt => simp [Marker.isSet] at hset
  | unset =>
      rcases reply with fault | doneAt | _
      · rfl
      · simp at htaken
      · rfl

theorem retiring?_isSome {track : Track} (hempty : track.isEmpty = false) :
    (retiring? track).isSome = track.marker.isSet := by
  unfold retiring? Track.head?
  obtain ⟨instructions, marker⟩ := track
  cases instructions with
  | nil => simp [Track.isEmpty] at hempty
  | cons first rest => cases marker <;> rfl

theorem afterRetiring_of_unset {track : Track} (hset : track.marker.isSet = false) :
    afterRetiring track = track := by
  unfold afterRetiring
  simp [hset]

/-! ## Ticks -/

/-- Putting another track in the place of one changes the work by the
difference. -/
theorem work_of_set {core after : Core} {index : Nat} {track other : Track}
    (hget : core.tracks[index]? = some track)
    (htracks : after.tracks = core.tracks.set index other) (hlt : other.work < track.work) :
    after.work < core.work := by
  have hwork : (core.tracks.map Track.work)[index]? = some track.work := by
    rw [List.getElem?_map, hget]
    rfl
  have hsum := sum_set_add hwork other.work
  unfold work
  rw [htracks, List.map_set]
  omega

variable {watch : Watch} {core : Core} {credits : CreditBoard} {cycle : Cycle} {tick : Tick}

/-- The work that is left falls at every tick that makes progress. -/
theorem TickCase.work_lt (h : core.TickCase watch credits cycle tick)
    (hprogress : tick.progresses = true) : tick.core.work < core.work := by
  unfold Tick.progresses at hprogress
  cases h with
  | idle _ _ _ _ hretired hattempt => simp [hretired, hattempt] at hprogress
  | turned _ index track hchosen hturn =>
      have hempty : track.isEmpty = false := (Track.isReady_iff.mp hchosen.ready).1
      have hretiring := retiring?_isSome hempty
      cases hturn with
      | drained hnone htracks _ _ hretired hattempt =>
          have hset : track.marker.isSet = true := by
            rw [hretired, hattempt, Option.isSome_map, hretiring] at hprogress
            simpa using hprogress
          -- Nothing is answered, which is as good as a refusal.
          exact work_of_set hchosen.get htracks
            (work_answered_lt hempty hset (.error default))
      | tried instr _ htracks _ _ hretired hattempt =>
          refine work_of_set hchosen.get htracks ?_
          cases hset : track.marker.isSet with
          | true => exact work_answered_lt hempty hset _
          | false =>
              rw [hretired, hattempt, Option.isSome_map, hretiring, hset] at hprogress
              exact work_taken_lt hempty hset (by simpa using hprogress)

theorem handing_path_of_not_taken {instr : Instruction}
    (h : isTaken (core.handing watch credits cycle instr).reply = false) :
    (core.handing watch credits cycle instr).path = core.path := by
  unfold handing at h ⊢
  cases hunit : UnitName.ofText? instr.unit with
  | none => rfl
  | some unit =>
      rw [hunit] at h
      dsimp only at h ⊢
      rw [isTaken_mapError] at h
      exact (core.path.run_case watch core.spec credits instr cycle unit).path_of_not_taken h

/-- A tick that makes no progress leaves the tracks and the datapath as they
are. -/
theorem TickCase.stays (h : core.TickCase watch credits cycle tick)
    (hprogress : tick.progresses = false) :
    tick.core.tracks = core.tracks ∧ tick.core.path = core.path := by
  unfold Tick.progresses at hprogress
  cases h with
  | idle _ htracks hpath _ _ _ => exact ⟨htracks, hpath⟩
  | turned _ index track hchosen hturn =>
      have hempty : track.isEmpty = false := (Track.isReady_iff.mp hchosen.ready).1
      have hretiring := retiring?_isSome hempty
      obtain ⟨hlt, hget⟩ := List.getElem?_eq_some_iff.mp hchosen.get
      have hback : core.tracks.set index track = core.tracks := by
        rw [← hget]
        exact List.set_getElem_self hlt
      cases hturn with
      | drained hnone htracks hpath _ hretired hattempt =>
          have hset : track.marker.isSet = false := by
            rw [hretired, hattempt, Option.isSome_map, hretiring] at hprogress
            simpa using hprogress
          rw [afterRetiring_of_unset hset, hback] at htracks
          exact ⟨htracks, hpath⟩
      | tried instr _ htracks hpath _ hretired hattempt =>
          rw [hretired, hattempt, Option.isSome_map, hretiring, Bool.or_eq_false_iff]
            at hprogress
          obtain ⟨hset, htaken⟩ := hprogress
          have hnot : isTaken (core.handing watch credits cycle instr).reply = false := by
            simpa using htaken
          rw [answered_eq hset hnot, hback] at htracks
          exact ⟨htracks, hpath.trans (handing_path_of_not_taken hnot)⟩

/-- The work that is left never grows. -/
theorem TickCase.work_le (h : core.TickCase watch credits cycle tick) :
    tick.core.work ≤ core.work := by
  cases hprogress : tick.progresses with
  | true => exact Nat.le_of_lt (h.work_lt hprogress)
  | false =>
      have hsame : tick.core.work = core.work := by
        unfold work
        rw [(h.stays hprogress).1]
      exact Nat.le_of_eq hsame

/-! ## Tracks that are done -/

/-- No track without instructions executes at a cycle. -/
def IsRested (core : Core) (cycle : Cycle) : Prop :=
  ∀ track ∈ core.tracks, track.isEmpty = true → track.isBusy cycle = false

theorem isAfter_of_le {marker : Marker} {earlier later : Cycle} (hle : earlier ≤ later)
    (h : marker.isAfter earlier = false) : marker.isAfter later = false := by
  cases marker with
  | unset => rfl
  | «at» doneAt =>
      have hnot : ¬ earlier < doneAt := of_decide_eq_false h
      exact decide_eq_false fun hlt => hnot (Nat.lt_of_le_of_lt hle hlt)

theorem IsRested.mono {core : Core} {earlier later : Cycle} (h : core.IsRested earlier)
    (hle : earlier ≤ later) : core.IsRested later :=
  fun track hmem hempty => isAfter_of_le hle (h track hmem hempty)

/-- An instruction leaves its track only when it has completed. -/
theorem TickCase.isRested (h : core.TickCase watch credits cycle tick)
    (hrested : core.IsRested cycle) : tick.core.IsRested cycle := by
  intro other hmem hempty
  cases h with
  | idle _ htracks _ _ _ _ =>
      rw [htracks] at hmem
      exact hrested other hmem hempty
  | turned _ index track hchosen hturn =>
      cases hturn with
      | drained _ htracks _ _ _ _ =>
          rw [htracks] at hmem
          rcases List.mem_or_eq_of_mem_set hmem with hold | rfl
          · exact hrested other hold hempty
          · have hready := (Track.isReady_iff.mp hchosen.ready).2
            unfold Track.isBusy afterRetiring
            split
            · exact hready
            · exact hready
      | tried instr hhead htracks _ _ _ _ =>
          rw [htracks] at hmem
          rcases List.mem_or_eq_of_mem_set hmem with hold | rfl
          · exact hrested other hold hempty
          · have hnonempty := Track.isEmpty_eq_false_of_head? hhead
            unfold Track.isEmpty at hempty hnonempty
            rw [Track.instructions_answered, hnonempty] at hempty
            simp at hempty

/-! ## Credit -/

theorem handing_credits (instr : Instruction)
    (hflag : credits.flags[core.spec.node]? = some (core.path.hasRoom core.spec)) :
    (core.handing watch credits cycle instr).credits = credits := by
  unfold handing
  cases UnitName.ofText? instr.unit with
  | none => rfl
  | some unit =>
      exact (core.path.run_case watch core.spec credits instr cycle unit).credits_eq hflag

/-- While the flag of a core shows the packets that have arrived, its tick changes
the credit of no node. -/
theorem TickCase.credits_eq (h : core.TickCase watch credits cycle tick)
    (hflag : credits.flags[core.spec.node]? = some (core.path.hasRoom core.spec)) :
    tick.credits = credits := by
  cases h with
  | idle _ _ _ hcredits _ _ => exact hcredits
  | turned _ index track _ hturn =>
      cases hturn with
      | drained _ _ _ hcredits _ _ => exact hcredits
      | tried instr _ _ _ hcredits _ _ => exact hcredits.trans (handing_credits instr hflag)

end Core

end CoreArray
