import CoreArray.Core.Tick
import CoreArray.Proofs.Datapath.Cases
set_option autoImplicit false

/-!
# What a tick can do (SPEC §4.5)

Whatever the arbiter, a tick leaves a core that is finished or busy as it is, and
otherwise gives one ready track its turn: the completed instruction of the track
leaves it, and the next one, if there is one, is handed to its unit.  `TickCase`
lists these cases and `tickWith_case` says that there are no others.
-/

namespace CoreArray

/-- What comes of handing an instruction to the unit that it names. -/
structure Handing where
  reply : Except TickFault Outcome
  path : Datapath
  credits : CreditBoard

namespace Track

/-- A track after its first instruction has been answered. -/
def answered (track : Track) : Except TickFault Outcome → Track
  | .ok outcome => { track with marker := .ofOutcome outcome }
  | .error _ => track

@[simp] theorem instructions_answered (track : Track) (reply : Except TickFault Outcome) :
    (track.answered reply).instructions = track.instructions := by
  cases reply <;> rfl

theorem mem_of_head? {track : Track} {instr : Instruction} (h : track.head? = some instr) :
    ∃ rest, track.instructions = instr :: rest := by
  unfold head? at h
  cases hinstrs : track.instructions with
  | nil => rw [hinstrs] at h; simp at h
  | cons first rest =>
      rw [hinstrs, List.head?_cons, Option.some.injEq] at h
      exact ⟨rest, by rw [h]⟩

theorem isEmpty_eq_false_of_head? {track : Track} {instr : Instruction}
    (h : track.head? = some instr) : track.isEmpty = false := by
  obtain ⟨rest, hinstrs⟩ := mem_of_head? h
  simp [isEmpty, hinstrs]

theorem exists_head? {track : Track} (h : track.isEmpty = false) :
    ∃ instr, track.head? = some instr := by
  unfold isEmpty at h
  unfold head?
  cases hinstrs : track.instructions with
  | nil => rw [hinstrs] at h; simp at h
  | cons first rest => exact ⟨first, rfl⟩

/-- A track that still has instructions is ready unless it executes one. -/
theorem isReady_iff {track : Track} {cycle : Cycle} :
    track.isReady cycle = true ↔
      track.isEmpty = false ∧ track.marker.isAfter cycle = false := by
  simp [isReady, isBusy]

end Track

namespace Core

/-- Hand an instruction to the unit that it names. -/
def handing (watch : Watch) (core : Core) (credits : CreditBoard) (cycle : Cycle)
    (instr : Instruction) : Handing :=
  match UnitName.ofText? instr.unit with
  | none => ⟨.error (.noUnit instr core.node), core.path, credits⟩
  | some unit =>
      let execution := core.path.run watch core.spec credits unit instr cycle
      ⟨execution.reply.mapError .exec, execution.path, execution.credits⟩

/-- A track that an arbiter may choose: a ready one, and one whose instruction has
completed if there is such a one among the ready. -/
structure Chosen (core : Core) (cycle : Cycle) (index : Nat) (track : Track) : Prop where
  get : core.tracks[index]? = some track
  ready : track.isReady cycle = true
  first : ∀ other ∈ core.tracks, other.isReady cycle = true → other.marker.isSet = true →
    track.marker.isSet = true

/-! ## The choice -/

section Choice

variable {core : Core} {cycle : Cycle}

theorem mem_candidates {index : Nat} :
    index ∈ core.candidates cycle ↔
      ∃ track, core.tracks[index]? = some track ∧ track.isReady cycle = true := by
  unfold candidates
  rw [List.mem_filterMap]
  constructor
  · rintro ⟨⟨place, track⟩, hmem, hready⟩
    have hget := (Text.mem_numberFrom.mp hmem).2
    by_cases hcheck : track.isReady cycle = true
    · simp only [hcheck, if_true, Option.some.injEq] at hready
      subst hready
      exact ⟨track, hget, hcheck⟩
    · simp [hcheck] at hready
  · rintro ⟨track, hget, hready⟩
    exact ⟨(index, track), Text.mem_numberFrom.mpr ⟨Nat.zero_le _, hget⟩, by simp [hready]⟩

/-- If any track is ready, one is chosen, and rightly so. -/
theorem exists_chosen (arbiter : Arbiter) (h : ∃ track ∈ core.tracks, track.isReady cycle = true) :
    ∃ index track, (core.select arbiter cycle).1 = some index ∧
      core.Chosen cycle index track := by
  have hperm := arbiter.draw_perm core (core.candidates cycle)
  unfold select
  generalize arbiter.draw core (core.candidates cycle) = drawn at hperm
  obtain ⟨ordered, generator⟩ := drawn
  dsimp only at hperm ⊢
  unfold choose
  cases hfind : ordered.find? core.hasMarker with
  | some index =>
      obtain ⟨track, hget, hready⟩ :=
        mem_candidates.mp (hperm.mem_iff.mp (List.mem_of_find?_eq_some hfind))
      have hset : track.marker.isSet = true := by
        have htest := List.find?_some hfind
        unfold hasMarker at htest
        rw [hget] at htest
        exact htest
      exact ⟨index, track, rfl, hget, hready, fun _ _ _ _ => hset⟩
  | none =>
      obtain ⟨ready, hmem, hready⟩ := h
      obtain ⟨place, hplace⟩ := List.mem_iff_getElem?.mp hmem
      have hcandidate : place ∈ ordered :=
        hperm.mem_iff.mpr (mem_candidates.mpr ⟨ready, hplace, hready⟩)
      cases hordered : ordered with
      | nil => rw [hordered] at hcandidate; simp at hcandidate
      | cons index rest =>
          have hindex : index ∈ core.candidates cycle :=
            hperm.mem_iff.mp (by rw [hordered]; exact List.mem_cons_self)
          obtain ⟨track, hget, htrack⟩ := mem_candidates.mp hindex
          refine ⟨index, track, rfl, hget, htrack, ?_⟩
          -- No candidate has a marker, so the case does not arise.
          intro other hother hotherReady hset
          obtain ⟨at', hat'⟩ := List.mem_iff_getElem?.mp hother
          have hnone := List.find?_eq_none.mp hfind at'
            (hperm.mem_iff.mpr (mem_candidates.mpr ⟨other, hat', hotherReady⟩))
          exfalso
          apply hnone
          unfold hasMarker
          rw [hat']
          exact hset

theorem select_core {arbiter : Arbiter} : (core.select arbiter cycle).2 =
    { core with generator := (arbiter.draw core (core.candidates cycle)).2 } := rfl

/-- A core that is neither finished nor busy has a track that is ready. -/
theorem exists_ready (hfinished : core.isFinished cycle = false)
    (hbusy : core.isBusy cycle = false) : ∃ track ∈ core.tracks, track.isReady cycle = true := by
  unfold isFinished at hfinished
  obtain ⟨track, hmem, hnot⟩ := List.all_eq_false.mp hfinished
  have hidle : track.isBusy cycle = false := by
    unfold isBusy at hbusy
    exact Bool.eq_false_iff.mpr (List.any_eq_false.mp hbusy track hmem)
  refine ⟨track, hmem, ?_⟩
  unfold Track.isReady
  unfold Track.isFinished at hnot
  cases hempty : track.isEmpty
  · simp [hidle]
  · simp [hempty, hidle] at hnot

end Choice

/-! ## The cases of a tick -/

/-- What may come of the turn of a track, the count of busy ticks and the generator
of the core apart. -/
inductive TurnCase (watch : Watch) (core : Core) (credits : CreditBoard) (cycle : Cycle)
    (index : Nat) (track : Track) (tick : Tick) : Prop
  /-- The last instruction of the track leaves it. -/
  | drained (hempty : (afterRetiring track).head? = none)
      (htracks : tick.core.tracks = core.tracks.set index (afterRetiring track))
      (hpath : tick.core.path = core.path) (hcredits : tick.credits = credits)
      (hretired : tick.retired = (retiring? track).map fun instr => (index, instr))
      (hattempt : tick.attempt = none)
  /-- An instruction is handed to its unit, perhaps after another has left the
  track. -/
  | tried (instr : Instruction) (hhead : (afterRetiring track).head? = some instr)
      (htracks : tick.core.tracks = core.tracks.set index
        ((afterRetiring track).answered (core.handing watch credits cycle instr).reply))
      (hpath : tick.core.path = (core.handing watch credits cycle instr).path)
      (hcredits : tick.credits = (core.handing watch credits cycle instr).credits)
      (hretired : tick.retired = (retiring? track).map fun instr => (index, instr))
      (hattempt : tick.attempt =
        some ⟨index, instr, (core.handing watch credits cycle instr).reply⟩)

/-- What may come of a tick. -/
inductive TickCase (watch : Watch) (core : Core) (credits : CreditBoard) (cycle : Cycle)
    (tick : Tick) : Prop
  /-- The core is finished or busy. -/
  | idle (hidle : core.isFinished cycle = true ∨ core.isBusy cycle = true)
      (htracks : tick.core.tracks = core.tracks) (hpath : tick.core.path = core.path)
      (hcredits : tick.credits = credits) (hretired : tick.retired = none)
      (hattempt : tick.attempt = none)
  /-- A track has its turn. -/
  | turned (hbusy : core.isBusy cycle = false) (index : Nat) (track : Track)
      (hchosen : core.Chosen cycle index track)
      (hturn : core.TurnCase watch credits cycle index track tick)

section Tick

variable (arbiter : Arbiter) (watch : Watch) (core : Core) (credits : CreditBoard)
  (cycle : Cycle)

/-- Counting a tick changes nothing of a core but the counts. -/
theorem countTick_eq : ∃ busy idle lastTick,
    core.countTick cycle = { core with busy, idle, lastTick } := by
  unfold countTick
  split
  · exact ⟨_, _, _, rfl⟩
  · split
    · exact ⟨_, _, _, rfl⟩
    · split
      · exact ⟨_, _, _, rfl⟩
      · exact ⟨_, _, _, rfl⟩

@[simp] theorem countTick_tracks : (core.countTick cycle).tracks = core.tracks := by
  obtain ⟨busy, idle, lastTick, heq⟩ := core.countTick_eq cycle
  rw [heq]

@[simp] theorem countTick_path : (core.countTick cycle).path = core.path := by
  obtain ⟨busy, idle, lastTick, heq⟩ := core.countTick_eq cycle
  rw [heq]

@[simp] theorem countTick_spec : (core.countTick cycle).spec = core.spec := by
  obtain ⟨busy, idle, lastTick, heq⟩ := core.countTick_eq cycle
  rw [heq]

@[simp] theorem countTick_isFinished (now : Cycle) :
    (core.countTick cycle).isFinished now = core.isFinished now := by
  unfold isFinished
  rw [countTick_tracks]

@[simp] theorem countTick_isBusy (now : Cycle) :
    (core.countTick cycle).isBusy now = core.isBusy now := by
  unfold isBusy
  rw [countTick_tracks]

/-- Handing an instruction to its unit reads what never changes of a core, and its
datapath. -/
theorem handing_congr {core other : Core} (hspec : core.spec = other.spec)
    (hpath : core.path = other.path) (instr : Instruction) :
    core.handing watch credits cycle instr = other.handing watch credits cycle instr := by
  unfold handing node
  rw [hspec, hpath]

/-- An attempt is a handing, after which the track is put back. -/
theorem attempt_eq (index : Nat) (track : Track) (instr : Instruction) :
    let tick := core.attempt watch credits cycle index track instr
    let handing := core.handing watch credits cycle instr
    tick.core.spec = core.spec ∧ tick.core.path = handing.path ∧
      tick.core.tracks = (match handing.reply with
        | .ok _ => core.tracks.set index (track.answered handing.reply)
        | .error _ => core.tracks) ∧
      tick.credits = handing.credits ∧
      tick.attempt = some ⟨index, instr, handing.reply⟩ := by
  unfold attempt handing
  cases UnitName.ofText? instr.unit with
  | none => exact ⟨rfl, rfl, rfl, rfl, rfl⟩
  | some unit =>
      dsimp only
      cases hreply : (core.path.run watch core.spec credits unit instr cycle).reply with
      | error fault => exact ⟨rfl, rfl, rfl, rfl, rfl⟩
      | ok outcome => exact ⟨rfl, rfl, rfl, rfl, rfl⟩

theorem advance_case (index : Nat) (track : Track) :
    core.TurnCase watch credits cycle index track
      (core.advance watch credits cycle index track) := by
  unfold advance
  dsimp only
  cases hhead : (afterRetiring track).head? with
  | none => exact .drained hhead rfl rfl rfl rfl rfl
  | some instr =>
      obtain ⟨-, hpath, htracks, hcredits, hattempt⟩ :=
        attempt_eq watch (core.setTrack index (afterRetiring track)) credits cycle index
          (afterRetiring track) instr
      have hsame : (core.setTrack index (afterRetiring track)).handing watch credits cycle instr =
          core.handing watch credits cycle instr :=
        handing_congr watch credits cycle rfl rfl instr
      rw [hsame] at hpath htracks hcredits hattempt
      refine .tried instr hhead ?_ hpath hcredits rfl hattempt
      refine htracks.trans ?_
      cases (core.handing watch credits cycle instr).reply with
      | error fault => rfl
      | ok outcome => exact List.set_set _

theorem advance_spec (index : Nat) (track : Track) :
    (core.advance watch credits cycle index track).core.spec = core.spec := by
  unfold advance
  dsimp only
  cases (afterRetiring track).head? with
  | none => rfl
  | some instr =>
      exact (attempt_eq watch (core.setTrack index (afterRetiring track)) credits cycle index
        (afterRetiring track) instr).1

/-- The turn of a track reads what never changes of a core, its tracks and its
datapath. -/
theorem TurnCase.congr {watch : Watch} {credits : CreditBoard} {cycle : Cycle}
    {core other : Core} {index : Nat} {track : Track} {tick : Tick}
    (h : other.TurnCase watch credits cycle index track tick) (hspec : other.spec = core.spec)
    (htracks : other.tracks = core.tracks) (hpath : other.path = core.path) :
    core.TurnCase watch credits cycle index track tick := by
  cases h with
  | drained hempty ht hp hc hr ha =>
      rw [htracks] at ht
      exact .drained hempty ht (hp.trans hpath) hc hr ha
  | tried instr hhead ht hp hc hr ha =>
      have hsame := handing_congr watch credits cycle hspec hpath instr
      rw [htracks, hsame] at ht
      rw [hsame] at hp hc ha
      exact .tried instr hhead ht hp hc hr ha

/-- A core that is neither finished nor busy gives the track that is selected its
turn. -/
theorem tickWith_turn {index : Nat} {track : Track} (hfinished : core.isFinished cycle = false)
    (hbusy : core.isBusy cycle = false)
    (hselect : ((core.countTick cycle).select arbiter cycle).1 = some index)
    (hget : core.tracks[index]? = some track) :
    core.TurnCase watch credits cycle index track
      (core.tickWith arbiter watch credits cycle) := by
  have hspec := core.countTick_spec cycle
  have htracks := core.countTick_tracks cycle
  have hpath := core.countTick_path cycle
  have hidle : ¬ ((core.countTick cycle).isFinished cycle ||
      (core.countTick cycle).isBusy cycle) = true := by
    simp [hfinished, hbusy]
  unfold tickWith
  dsimp only
  rw [if_neg hidle]
  generalize core.countTick cycle = counted at hspec htracks hpath hselect
  have hcounted : counted.tracks[index]? = some track := by rw [htracks, hget]
  unfold turn
  rw [← Prod.eta (counted.select arbiter cycle), hselect, select_core]
  dsimp only [Option.bind_some]
  rw [hcounted]
  dsimp only [Option.map_some]
  generalize (arbiter.draw counted (counted.candidates cycle)).2 = generator
  have hturn := (advance_case watch { counted with generator } credits cycle index track).congr
    hspec htracks hpath
  cases hturn with
  | drained hempty ht hp hc hr ha => exact .drained hempty ht hp hc hr ha
  | tried instr hhead ht hp hc hr ha => exact .tried instr hhead ht hp hc hr ha

/-- A core that is finished or busy stays as it is. -/
theorem tickWith_idle (hidle : core.isFinished cycle = true ∨ core.isBusy cycle = true) :
    core.TickCase watch credits cycle (core.tickWith arbiter watch credits cycle) := by
  have hcount : ((core.countTick cycle).isFinished cycle ||
      (core.countTick cycle).isBusy cycle) = true := by
    simpa using hidle
  unfold tickWith
  dsimp only
  rw [if_pos hcount]
  exact .idle hidle (core.countTick_tracks cycle) (core.countTick_path cycle) rfl rfl rfl

/-- Every tick is one of the cases. -/
theorem tickWith_case :
    core.TickCase watch credits cycle (core.tickWith arbiter watch credits cycle) := by
  by_cases hidle : core.isFinished cycle = true ∨ core.isBusy cycle = true
  · exact core.tickWith_idle arbiter watch credits cycle hidle
  · rw [not_or, Bool.not_eq_true, Bool.not_eq_true] at hidle
    obtain ⟨hfinished, hbusy⟩ := hidle
    have hready : ∃ track ∈ (core.countTick cycle).tracks, track.isReady cycle = true := by
      rw [countTick_tracks]
      exact exists_ready hfinished hbusy
    obtain ⟨index, track, hselect, hchosen⟩ := exists_chosen arbiter hready
    obtain ⟨hget, htrack, hfirst⟩ := hchosen
    rw [countTick_tracks] at hget hfirst
    exact .turned hbusy index track ⟨hget, htrack, hfirst⟩
      (core.tickWith_turn arbiter watch credits cycle hfinished hbusy hselect hget)

/-- A tick changes nothing of what never changes of a core. -/
theorem tickWith_spec : (core.tickWith arbiter watch credits cycle).core.spec = core.spec := by
  unfold tickWith
  dsimp only
  split
  · exact core.countTick_spec cycle
  · unfold turn
    dsimp only
    split
    · exact core.countTick_spec cycle
    · next index track _ =>
        exact (advance_spec watch ((core.countTick cycle).select arbiter cycle).2 credits cycle
          index track).trans (core.countTick_spec cycle)

/-! ## The count of ticks -/

/-- What a core counts: busy ticks, idle ticks, and the last tick. -/
def tally (core : Core) : Nat × Nat × Option Cycle := (core.busy, core.idle, core.lastTick)

theorem attempt_tally (index : Nat) (track : Track) (instr : Instruction) :
    (core.attempt watch credits cycle index track instr).core.tally = core.tally := by
  unfold attempt
  cases UnitName.ofText? instr.unit with
  | none => rfl
  | some unit =>
      dsimp only
      cases (core.path.run watch core.spec credits unit instr cycle).reply with
      | error fault => rfl
      | ok outcome => rfl

theorem advance_tally (index : Nat) (track : Track) :
    (core.advance watch credits cycle index track).core.tally = core.tally := by
  unfold advance
  dsimp only
  cases (afterRetiring track).head? with
  | none => rfl
  | some instr => exact attempt_tally watch _ credits cycle index (afterRetiring track) instr

/-- A tick counts the tick before it, and nothing else. -/
theorem tickWith_tally :
    (core.tickWith arbiter watch credits cycle).core.tally = (core.countTick cycle).tally := by
  unfold tickWith
  dsimp only
  split
  · rfl
  · unfold turn
    dsimp only
    split
    · rfl
    · next index track _ => exact advance_tally watch _ credits cycle index track

end Tick

end Core

end CoreArray
