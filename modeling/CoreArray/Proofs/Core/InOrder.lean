import CoreArray.Proofs.Results
import CoreArray.Proofs.Core.Past
set_option autoImplicit false

/-!
# Tracks run in order (SPEC §3, §4.5)

However a core ticks, as long as its clock does not go back and no tick fails, each
track is executed in order and exactly once, one instruction of the whole core at a
time.  The marker of a track has many meanings (never begun, waiting, executing,
completed, left behind on an empty track); what it means together with the rest of the
track is that the instruction under way, `Track.underway`, is the one that has been
taken up and has not left.

`TrackCase.exchange` is the account of one track at one tick, and `Past.account` is its
sum over the past.  That the core is busy until the instruction under way completes is
`Past.isBusy_of_issued`.
-/

namespace CoreArray

/-- The instruction of a track that is taken up and has not left, with the cycle of its
completion. -/
def Track.underway (track : Track) : Option (Instruction × Cycle) :=
  match track.marker with
  | .unset => none
  | .at doneAt => track.head?.map fun instr => (instr, doneAt)

/-- Whether the clock never goes back in a past, of which the last tick comes first. -/
def IsForward (past : List PastTick) : Prop :=
  past.Pairwise fun later earlier => earlier.cycle ≤ later.cycle

/-- Whether every tick of a past succeeds. -/
def IsFaultless (past : List PastTick) : Prop := ∀ entry ∈ past, entry.tick.result = .ok ()

/-- The instruction under way is the one that leaves the track when its turn comes. -/
theorem Track.map_underway (track : Track) :
    track.underway.map Prod.fst = Core.retiring? track := by
  unfold underway Core.retiring?
  cases track.marker with
  | unset => rfl
  | «at» doneAt => simp [Marker.isSet, Option.map_map, Function.comp_def]

namespace Core

/-! ## One track at a tick -/

/-- The account of a track at a tick: what leaves it, which has completed, and what is
taken up make the difference. -/
structure Exchange (cycle : Cycle) (index : Nat) (track : Track) (tick : Tick) (after : Track)
    (gone : Option (Instruction × Cycle)) : Prop where
  retired : tick.retiredOn index = gone.map Prod.fst
  completed : ∀ issue ∈ gone, issue.2 ≤ cycle
  queue : track.instructions = (gone.map Prod.fst).toList ++ after.instructions
  underway : track.underway.toList ++ (tick.issuedOn index).toList =
    gone.toList ++ after.underway.toList

/-- What leaves a track that has its turn is the instruction under way. -/
theorem instructions_eq_of_ready {track : Track} :
    track.instructions =
      (track.underway.map Prod.fst).toList ++ (afterRetiring track).instructions := by
  rw [track.map_underway]
  unfold retiring? afterRetiring Track.head?
  cases hset : track.marker.isSet with
  | false => rfl
  | true => cases track.instructions <;> simp

theorem completed_of_ready {track : Track} {cycle : Cycle} (hready : track.isReady cycle = true) :
    ∀ issue ∈ track.underway, issue.2 ≤ cycle := by
  intro issue hissue
  have hafter := (Track.isReady_iff.mp hready).2
  unfold Track.underway at hissue
  cases hmarker : track.marker with
  | unset => rw [hmarker] at hissue; simp at hissue
  | «at» doneAt =>
      rw [hmarker] at hafter hissue
      obtain ⟨instr, -, rfl⟩ := Option.map_eq_some_iff.mp hissue
      exact Nat.le_of_not_lt (of_decide_eq_false hafter)

/-- An instruction that is answered is under way afterwards if it is taken up. -/
theorem issue?_eq_underway {track : Track} {index : Nat} {instr : Instruction}
    {outcome : Outcome} (hhead : track.head? = some instr) :
    Attempt.issue? ⟨index, instr, .ok outcome⟩ = (track.answered (.ok outcome)).underway := by
  cases outcome with
  | notYet => rfl
  | complete doneAt =>
      have hsame : (track.answered (.ok (.complete doneAt))).head? = some instr := hhead
      unfold Track.underway
      rw [hsame]
      rfl

/-- A tick that succeeds keeps the account of every track. -/
theorem TrackCase.exchange {cycle : Cycle} {index : Nat} {track after : Track} {tick : Tick}
    (h : TrackCase cycle index track tick after) (hok : tick.result = .ok ()) :
    ∃ gone, Exchange cycle index track tick after gone := by
  cases h with
  | passed hafter hretired hattempt =>
      refine ⟨none, hretired, by simp, by rw [hafter]; rfl, ?_⟩
      rw [hafter, Tick.issuedOn, hattempt]
      simp
  | drained hready hempty hafter hretired hattempt =>
      refine ⟨track.underway, ?_, completed_of_ready hready, ?_, ?_⟩
      · rw [hretired, track.map_underway]
      · rw [hafter]
        exact instructions_eq_of_ready
      · have hnone : after.underway = none := by
          unfold Track.underway
          rw [hafter, hempty]
          cases (afterRetiring track).marker <;> rfl
        rw [hnone, Tick.issuedOn, hattempt]
        simp
  | tried hready instr reply hhead hafter hretired hattempt =>
      refine ⟨track.underway, ?_, completed_of_ready hready, ?_, ?_⟩
      · rw [hretired, track.map_underway]
      · rw [hafter, Track.instructions_answered]
        exact instructions_eq_of_ready
      · obtain ⟨outcome, rfl⟩ := Tick.reply_of_ok hok (Tick.attempt_of_attemptOn hattempt).1
        rw [Tick.issuedOn, hattempt, hafter]
        dsimp only [Option.bind_some]
        rw [issue?_eq_underway hhead]

/-- The track of an instruction that is taken up has it under way. -/
theorem TickCase.underway_of_issued {watch : Watch} {core : Core} {credits : CreditBoard}
    {cycle : Cycle} {tick : Tick} (h : core.TickCase watch credits cycle tick) {index : Nat}
    {issue : Instruction × Cycle} (hissued : tick.issuedOn index = some issue) :
    ∃ after, tick.core.tracks[index]? = some after ∧ after.underway = some issue := by
  obtain ⟨attempt, hon, hissue⟩ := Option.bind_eq_some_iff.mp hissued
  obtain ⟨hattempt, rfl⟩ := Tick.attempt_of_attemptOn hon
  obtain ⟨track, -, hhead, -, hafter⟩ := h.of_attempt hattempt
  refine ⟨_, hafter, ?_⟩
  obtain ⟨index, instr, reply⟩ := attempt
  cases reply with
  | error fault => simp [Attempt.issue?] at hissue
  | ok outcome => exact (issue?_eq_underway hhead).symm.trans hissue

end Core

namespace Past

open CoreArray.Core

variable {spec : CoreSpec} {tracks : List (List Instruction)} {tensors : TensorTable} {seed : Nat}
  {start core : Core} {past : List PastTick}

/-! ## The account of a past -/

/-- The account of a track: the instructions that it had, those that have left it, those
that were taken up, and what is left. -/
structure Account (past : List PastTick) (index : Nat) (instrs : List Instruction)
    (track : Track) (done : List (Instruction × Cycle)) : Prop where
  queue : instrs = (retiredOn past index).map Prod.fst ++ track.instructions
  issued : issuedOn past index = done ++ track.underway.toList
  same : done.map Prod.fst = (retiredOn past index).map Prod.fst
  completed : ∀ pair ∈ done.zip (retiredOn past index), pair.1.2 ≤ pair.2.2

theorem Account.next {entry : PastTick} {index : Nat} {instrs : List Instruction}
    {track after : Track} {done : List (Instruction × Cycle)}
    (h : Account past index instrs track done) {gone : Option (Instruction × Cycle)}
    (hstep : Exchange entry.cycle index track entry.tick after gone) :
    Account (entry :: past) index instrs after (done ++ gone.toList) := by
  have hretired : retiredOn (entry :: past) index = retiredOn past index ++
      (gone.map fun issue => (issue.1, entry.cycle)).toList := by
    rw [retiredOn_cons, hstep.retired, Option.map_map]
    rfl
  have hlength : done.length = (retiredOn past index).length := by
    have hmap := congrArg List.length h.same
    rwa [List.length_map, List.length_map] at hmap
  refine ⟨?_, ?_, ?_, ?_⟩
  · rw [h.queue, hstep.queue, hretired]
    cases gone <;> simp
  · rw [issuedOn_cons, h.issued, List.append_assoc, hstep.underway, List.append_assoc]
  · rw [hretired, List.map_append, List.map_append, h.same]
    cases gone <;> simp
  · intro pair hmem
    rw [hretired, List.zip_append hlength, List.mem_append] at hmem
    rcases hmem with hmem | hmem
    · exact h.completed pair hmem
    · cases gone with
      | none => simp at hmem
      | some issue =>
          simp only [Option.toList_some, Option.map_some, List.zip_cons_cons, List.zip_nil_right,
            List.mem_singleton] at hmem
          subst hmem
          exact hstep.completed issue rfl

/-- What has left a track was taken up at the same place of the order, and had completed
by then. -/
theorem Account.completed_at {index place : Nat} {instrs : List Instruction} {track : Track}
    {done : List (Instruction × Cycle)} (h : Account past index instrs track done)
    {issue retirement : Instruction × Cycle} (hissue : (issuedOn past index)[place]? = some issue)
    (hretirement : (retiredOn past index)[place]? = some retirement) :
    issue.1 = retirement.1 ∧ issue.2 ≤ retirement.2 := by
  obtain ⟨hlt, -⟩ := List.getElem?_eq_some_iff.mp hretirement
  have hlength := congrArg List.length h.same
  rw [List.length_map, List.length_map] at hlength
  have hdone : done[place]? = some issue := by
    rw [h.issued, List.getElem?_append_left (by omega)] at hissue
    exact hissue
  constructor
  · have hname := congrArg (fun names => names[place]?) h.same
    simpa [hdone, hretirement] using hname
  · have hpair : (done.zip (retiredOn past index))[place]? = some (issue, retirement) :=
      List.getElem?_zip_eq_some.mpr ⟨hdone, hretirement⟩
    exact h.completed _ (List.mem_of_getElem? hpair)

/-- Every track of a core has its account. -/
theorem account (h : Past (ofTracks spec tracks tensors seed) past core)
    (hok : IsFaultless past) {index : Nat} {instrs : List Instruction}
    (hinstrs : tracks[index]? = some instrs) :
    ∃ track done, core.tracks[index]? = some track ∧ Account past index instrs track done := by
  induction h with
  | start =>
      refine ⟨.ofInstructions instrs, [], ?_, rfl, rfl, rfl, by simp⟩
      unfold ofTracks
      rw [List.getElem?_map, hinstrs]
      rfl
  | tick _ arbiter watch credits cycle ih =>
      obtain ⟨track, done, hget, haccount⟩ :=
        ih fun entry hmem => hok entry (List.mem_cons_of_mem _ hmem)
      obtain ⟨after, hafter, hcase⟩ := (tickWith_case arbiter watch _ credits cycle).track_case hget
      obtain ⟨gone, hstep⟩ := hcase.exchange (hok _ List.mem_cons_self)
      exact ⟨after, _, hafter, haccount.next hstep⟩
  | exchange _ port ih => exact ih hok

/-- Tracks neither come nor go. -/
theorem length_tracks (h : Past start past core) : core.tracks.length = start.tracks.length := by
  induction h with
  | start => rfl
  | tick _ arbiter watch credits cycle ih =>
      exact (tickWith_case arbiter watch _ credits cycle).length_tracks.trans ih
  | exchange _ port ih => exact ih

/-! ## Busy until it completes -/

theorem isBusy_of_underway {index : Nat} {track : Track} {instr : Instruction} {doneAt cycle : Cycle}
    (hget : core.tracks[index]? = some track) (hunderway : track.underway = some (instr, doneAt))
    (hlt : cycle < doneAt) : core.isBusy cycle = true := by
  refine List.any_eq_true.mpr ⟨track, List.mem_of_getElem? hget, ?_⟩
  unfold Track.underway at hunderway
  cases hmarker : track.marker with
  | unset => rw [hmarker] at hunderway; simp at hunderway
  | «at» marked =>
      rw [hmarker] at hunderway
      obtain ⟨head, -, heq⟩ := Option.map_eq_some_iff.mp hunderway
      rw [Prod.mk.injEq] at heq
      unfold Track.isBusy
      rw [hmarker, heq.2]
      exact decide_eq_true hlt

/-- From the tick at which an instruction is taken up until it completes the core is
busy. -/
theorem isBusy_of_issued (h : Past start past core) (hforward : IsForward past)
    {entry : PastTick} (hmem : entry ∈ past) {index : Nat} {instr : Instruction}
    {doneAt cycle : Cycle} (hissued : entry.tick.issuedOn index = some (instr, doneAt))
    (hlate : ∀ other ∈ past, other.cycle ≤ cycle) (hlt : cycle < doneAt) :
    core.isBusy cycle = true := by
  induction h generalizing cycle with
  | start => simp at hmem
  | @tick past before hpast arbiter watch credits now ih =>
      obtain ⟨hbefore, hrest⟩ := List.pairwise_cons.mp hforward
      have hcase := tickWith_case arbiter watch before credits now
      have hnow : now ≤ cycle := hlate _ List.mem_cons_self
      rcases List.mem_cons.mp hmem with rfl | hmem
      · obtain ⟨after, hafter, hunderway⟩ := hcase.underway_of_issued hissued
        exact isBusy_of_underway hafter hunderway hlt
      · -- Nothing has its turn at the last tick, for the core was busy already.
        have hbusy (at' : Cycle) (hafter : now ≤ at') (hbelow : at' < doneAt) :
            before.isBusy at' = true :=
          ih hrest hmem (fun other hother => Nat.le_trans (hbefore other hother) hafter) hbelow
        cases hcase with
        | idle _ htracks _ _ _ _ =>
            unfold isBusy
            rw [htracks]
            exact hbusy cycle hnow hlt
        | turned hfree _ _ _ _ =>
            rw [hbusy now (Nat.le_refl now) (Nat.lt_of_le_of_lt hnow hlt)] at hfree
            simp at hfree
  | exchange _ port ih => exact ih hforward hmem hlate hlt

/-- Nothing has its turn before an instruction that is taken up completes. -/
theorem idle_of_issued {later earlier : List PastTick} {entry other : PastTick}
    (h : Past start (later ++ entry :: earlier) core)
    (hforward : IsForward (later ++ entry :: earlier)) {index : Nat} {instr : Instruction}
    {doneAt : Cycle} (hissued : entry.tick.issuedOn index = some (instr, doneAt))
    (hmem : other ∈ later) (hlt : other.cycle < doneAt) :
    other.tick.retired = none ∧ other.tick.attempt = none := by
  obtain ⟨after, between, rfl⟩ := List.append_of_mem hmem
  rw [List.append_assoc, List.cons_append] at h hforward
  obtain ⟨hbefore, -, watch, hcase⟩ := h.of_append
  obtain ⟨hlate, hrest⟩ := List.pairwise_cons.mp (List.pairwise_append.mp hforward).2.1
  have hentry : entry ∈ between ++ entry :: earlier :=
    List.mem_append_right between List.mem_cons_self
  have hbusy := hbefore.isBusy_of_issued hrest hentry hissued hlate hlt
  cases hcase with
  | idle _ _ _ _ hretired hattempt => exact ⟨hretired, hattempt⟩
  | turned hfree _ _ _ _ => rw [hbusy] at hfree; simp at hfree

/-! ## Finished when nothing is left -/

/-- At the cycle of the last tick no track that is empty executes. -/
theorem isRested (h : Past (ofTracks spec tracks tensors seed) past core)
    (hforward : IsForward past) {cycle : Cycle} (hlate : ∀ entry ∈ past, entry.cycle ≤ cycle) :
    core.IsRested cycle := by
  induction h generalizing cycle with
  | start =>
      intro track hmem _
      obtain ⟨instrs, -, rfl⟩ := List.mem_map.mp hmem
      rfl
  | tick _ arbiter watch credits now ih =>
      obtain ⟨hbefore, hrest⟩ := List.pairwise_cons.mp hforward
      have hticked := (tickWith_case arbiter watch _ credits now).isRested (ih hrest hbefore)
      exact hticked.mono (hlate _ List.mem_cons_self)
  | exchange _ port ih => exact ih hforward hlate

/-- At the cycle of the last tick a core is finished exactly if every instruction has
left its track. -/
theorem isFinished_iff (h : Past (ofTracks spec tracks tensors seed) past core)
    (hforward : IsForward past) (hok : IsFaultless past) {cycle : Cycle}
    (hlate : ∀ entry ∈ past, entry.cycle ≤ cycle) :
    core.isFinished cycle = true ↔
      ∀ (index : Nat) (instrs : List Instruction), tracks[index]? = some instrs →
        (retiredOn past index).map Prod.fst = instrs := by
  constructor
  · intro hfinished index instrs hinstrs
    obtain ⟨track, done, hget, haccount⟩ := h.account hok hinstrs
    have htrack := List.all_eq_true.mp hfinished track (List.mem_of_getElem? hget)
    have hempty : track.instructions = [] := by
      unfold Track.isFinished Track.isEmpty at htrack
      simpa using (Bool.and_eq_true_iff.mp htrack).1
    rw [haccount.queue, hempty, List.append_nil]
  · intro hall
    refine List.all_eq_true.mpr fun track hmem => ?_
    obtain ⟨index, hget⟩ := List.mem_iff_getElem?.mp hmem
    obtain ⟨hlt, -⟩ := List.getElem?_eq_some_iff.mp hget
    rw [h.length_tracks] at hlt
    have hlength : index < tracks.length := by
      unfold ofTracks at hlt
      rwa [List.length_map] at hlt
    have hinstrs : tracks[index]? = some tracks[index] := List.getElem?_eq_getElem hlength
    obtain ⟨found, done, hfound, haccount⟩ := h.account hok hinstrs
    have hsame : track = found := Option.some.inj (hget.symm.trans hfound)
    subst hsame
    have hqueue := haccount.queue
    rw [hall index _ hinstrs] at hqueue
    have hempty : track.isEmpty = true := by
      unfold Track.isEmpty
      rw [List.self_eq_append_right.mp hqueue]
      rfl
    unfold Track.isFinished
    rw [hempty, h.isRested hforward hlate track hmem hempty]
    rfl

end Past

/-! ## The order of a track -/

namespace Core

/-- What it means that the tracks of a core have run in order, one instruction at a
time. -/
structure RanInOrder (tracks : List (List Instruction)) (past : List PastTick)
    (core : Core) : Prop where
  /-- A track had what has left it, in that order, and then what is left. -/
  queue : ∀ (index : Nat) (instrs : List Instruction), tracks[index]? = some instrs →
    ∃ track, core.tracks[index]? = some track ∧
      instrs = (retiredOn past index).map Prod.fst ++ track.instructions
  /-- The units have taken up what has left a track, and its head if that has a marker. -/
  issued : ∀ (index : Nat) (track : Track), core.tracks[index]? = some track →
    (issuedOn past index).map Prod.fst = (retiredOn past index).map Prod.fst ++
      if track.marker.isSet then track.head?.toList else []
  /-- An instruction leaves its track at the cycle of its completion or later. -/
  completed : ∀ (index : Nat) (track : Track), core.tracks[index]? = some track →
    ∀ (place : Nat) (issue retirement : Instruction × Cycle),
    (issuedOn past index)[place]? = some issue →
    (retiredOn past index)[place]? = some retirement →
    issue.1 = retirement.1 ∧ issue.2 ≤ retirement.2
  /-- From the tick at which an instruction is taken up until its completion nothing
  leaves any track and nothing is tried. -/
  exclusive : ∀ (later earlier : List PastTick) (entry other : PastTick) (index : Nat)
    (instr : Instruction) (doneAt : Cycle), past = later ++ entry :: earlier →
    entry.tick.issuedOn index = some (instr, doneAt) → other ∈ later →
    other.cycle < doneAt → other.tick.retired = none ∧ other.tick.attempt = none
  /-- A tick of a core that is neither finished nor busy is the turn of one track. -/
  turn : ∀ entry ∈ past, entry.before.isFinished entry.cycle = false →
    entry.before.isBusy entry.cycle = false →
    ∃ index, ∀ other, entry.tick.isTurnOf other = true ↔ other = index
  /-- The core is finished at the last tick exactly if every instruction of every track
  has left it. -/
  finished : ∀ last ∈ past.head?, core.isFinished last.cycle = true ↔
    ∀ (index : Nat) (instrs : List Instruction), tracks[index]? = some instrs →
      (retiredOn past index).map Prod.fst = instrs

variable {spec : CoreSpec} {tracks : List (List Instruction)} {tensors : TensorTable} {seed : Nat}
  {core : Core} {past : List PastTick}

/-- However a core ticks, if its clock does not go back and no tick fails, its tracks
run in order, each instruction once, and one at a time. -/
theorem tracks_run_in_order (h : Past (ofTracks spec tracks tensors seed) past core)
    (hforward : IsForward past) (hok : IsFaultless past) : RanInOrder tracks past core := by
  have hlength : core.tracks.length = tracks.length := by
    rw [h.length_tracks]
    exact List.length_map _
  have haccount {index : Nat} {track : Track} (hget : core.tracks[index]? = some track) :
      ∃ instrs done, tracks[index]? = some instrs ∧
        Past.Account past index instrs track done := by
    obtain ⟨hlt, -⟩ := List.getElem?_eq_some_iff.mp hget
    rw [hlength] at hlt
    have hinstrs : tracks[index]? = some tracks[index] := List.getElem?_eq_getElem hlt
    obtain ⟨found, done, hfound, haccount⟩ := h.account hok hinstrs
    have hsame : track = found := Option.some.inj (hget.symm.trans hfound)
    exact ⟨_, done, hinstrs, hsame ▸ haccount⟩
  refine ⟨?_, ?_, ?_, ?_, ?_, ?_⟩
  · intro index instrs hinstrs
    obtain ⟨track, done, hget, haccount⟩ := h.account hok hinstrs
    exact ⟨track, hget, haccount.queue⟩
  · intro index track hget
    obtain ⟨instrs, done, -, haccount⟩ := haccount hget
    have hhead : track.underway.toList.map Prod.fst =
        if track.marker.isSet then track.head?.toList else [] := by
      rw [← Option.toList_map, track.map_underway]
      unfold retiring?
      split <;> rfl
    rw [haccount.issued, List.map_append, haccount.same, hhead]
  · intro index track hget place issue retirement hissue hretirement
    obtain ⟨instrs, done, -, haccount⟩ := haccount hget
    exact haccount.completed_at hissue hretirement
  · intro later earlier entry other index instr doneAt hpast hissued hmem hlt
    subst hpast
    exact h.idle_of_issued hforward hissued hmem hlt
  · intro entry hmem hfinished hbusy
    obtain ⟨-, watch, hcase⟩ := h.of_mem hmem
    exact hcase.exists_turn hfinished hbusy
  · intro last hlast
    refine h.isFinished_iff hforward hok fun entry hmem => ?_
    cases past with
    | nil => simp at hlast
    | cons first past =>
        rw [List.head?_cons, Option.mem_some_iff] at hlast
        subst hlast
        rcases List.mem_cons.mp hmem with rfl | hmem
        · exact Nat.le_refl _
        · exact (List.pairwise_cons.mp hforward).1 entry hmem

/-- The tracks of a core that sleeps on both of them. -/
def sleepTracks : List (List Instruction) :=
  [[.plain "CPU" "sleep" [0], .plain "CPU" "sleep" [2]], [.plain "CPU" "sleep" [1]]]

/-- The ticks of a core with these tracks, two of them at the same cycle. -/
def sleepRun : List PastTick × Core :=
  (ofTracks { (default : CoreSpec) with latencies := LatencyTable.empty.set .cpu "sleep" (.ofNat 1) }
    sleepTracks .empty 0).pastTicks .seeded .silent (.allOpened 1) [7, 5, 4, 2, 2, 0]

/-- A core that sleeps on two tracks runs both in order, to the end. -/
theorem sleep_tracks_run_in_order :
    IsForward sleepRun.1 ∧ IsFaultless sleepRun.1 ∧ sleepRun.2.isFinished 7 = true ∧
      RanInOrder sleepTracks sleepRun.1 sleepRun.2 := by
  have hforward : IsForward sleepRun.1 := by
    unfold IsForward
    decide +kernel
  have hok : IsFaultless sleepRun.1 := by
    have hall : ∀ entry ∈ sleepRun.1, entry.tick.result.isOk = true := by decide +kernel
    intro entry hmem
    exact eq_ok_getD (hall entry hmem) ()
  exact ⟨hforward, hok, by decide +kernel,
    tracks_run_in_order (past_pastTicks _ _ _ _ _) hforward hok⟩

end Core

end CoreArray
