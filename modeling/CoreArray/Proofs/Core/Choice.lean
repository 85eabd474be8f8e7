import CoreArray.Proofs.Core.Interleaving
set_option autoImplicit false

/-!
# Where the seed matters (SPEC §4.5, §5)

The generator of a core orders the tracks that can go on, but the order decides nothing
unless several of them are ready and none has a marker: a ready track with a marker is
chosen, and there is only one.  So two cores that differ in their generators only do the same
until such a choice is to be made, however they are driven.

`Core.seedless` forgets the generator.  Where at most one track may be chosen, what a tick
makes of a core is, but for the generator, a function of the seedless core
(`tickWith_seedless`).
-/

namespace CoreArray

namespace Core

/-- A core with its generator forgotten. -/
def seedless (core : Core) : Core := { core with generator := default }

/-- Whether the order of the tracks decides at a tick: the core is not busy, several tracks
are ready, and none of these has a marker. -/
def isChoice (core : Core) (cycle : Cycle) : Bool :=
  !core.isBusy cycle && 2 ≤ (core.candidates cycle).length &&
    (core.candidates cycle).all fun index => !core.hasMarker index

/-- Whether at most one track may be chosen at a tick. -/
def IsDecided (core : Core) (cycle : Cycle) : Prop :=
  core.isBusy cycle = false → ∀ (first second : Nat) (track found : Track),
    core.Chosen cycle first track → core.Chosen cycle second found → first = second

end Core

/-- A tick with the generator of its core forgotten. -/
def Tick.seedless (tick : Tick) : Tick := { tick with core := tick.core.seedless }

namespace Core

/-- Cores that are made alike differ in their generators only. -/
theorem seedless_ofTracks (spec : CoreSpec) (tracks : List (List Instruction))
    (tensors : TensorTable) (seed : Nat) :
    (ofTracks spec tracks tensors seed).seedless =
      { spec, path := .ofTensors tensors, tracks := tracks.map .ofInstructions,
        generator := default, busy := 0, idle := 0, lastTick := none } :=
  rfl

/-! ## What is chosen -/

section Choices

variable {core other : Core} {cycle : Cycle}

/-- Which track may be chosen is read off the tracks. -/
theorem Chosen.congr {index : Nat} {track : Track} (h : core.Chosen cycle index track)
    (htracks : other.tracks = core.tracks) : other.Chosen cycle index track := by
  refine ⟨?_, h.ready, ?_⟩
  · rw [htracks]
    exact h.get
  · rw [htracks]
    exact h.first

/-- If no two tracks are ready, at most one may be chosen. -/
theorem isDecided_of_length_candidates (h : (core.candidates cycle).length ≤ 1) :
    core.IsDecided cycle := by
  intro _ first second track found hfirst hsecond
  have hmemFirst := mem_candidates.mpr ⟨track, hfirst.get, hfirst.ready⟩
  have hmemSecond := mem_candidates.mpr ⟨found, hsecond.get, hsecond.ready⟩
  match hcandidates : core.candidates cycle with
  | [] =>
      rw [hcandidates] at hmemFirst
      simp at hmemFirst
  | [only] =>
      rw [hcandidates, List.mem_singleton] at hmemFirst hmemSecond
      rw [hmemFirst, hmemSecond]
  | _ :: _ :: _ =>
      rw [hcandidates, List.length_cons, List.length_cons] at h
      omega

/-- Where there is no choice to be made, at most one track may be chosen. -/
theorem isDecided_of_not_isChoice (hexclusive : core.IsExclusive)
    (hchoice : core.isChoice cycle = false) : core.IsDecided cycle := by
  intro hbusy first second track found hfirst hsecond
  by_cases hset : ∃ other ∈ core.tracks, other.isReady cycle = true ∧ other.marker.isSet = true
  · -- Both tracks have markers, and so both hold the turn.
    obtain ⟨other, hmem, hready, hmarker⟩ := hset
    have hholds {index : Nat} {chosen : Track} (h : core.Chosen cycle index chosen) :
        core.holds index = true := by
      refine holds_iff.mpr ⟨chosen, h.get, Track.holdsTurn_iff.mpr ⟨?_, ?_⟩⟩
      · exact (Track.isReady_iff.mp h.ready).1
      · exact h.first other hmem hready hmarker
    exact hexclusive first second (hholds hfirst) (hholds hsecond)
  · -- No ready track has a marker, and so at most one is ready.
    have hunset : ((core.candidates cycle).all fun index => !core.hasMarker index) = true := by
      refine List.all_eq_true.mpr fun index hindex => ?_
      obtain ⟨other, hget, hready⟩ := mem_candidates.mp hindex
      unfold hasMarker
      rw [hget, Option.any_some, Bool.not_eq_true']
      refine Bool.eq_false_iff.mpr fun hmarker => hset ⟨other, ?_, hready, hmarker⟩
      exact List.mem_of_getElem? hget
    unfold isChoice at hchoice
    rw [hbusy, hunset, Bool.not_false, Bool.true_and, Bool.and_true, decide_eq_false_iff_not]
      at hchoice
    exact isDecided_of_length_candidates (by omega) hbusy first second track found hfirst hsecond

end Choices

/-! ## One working track -/

/-- Number of tracks that are not empty. -/
def working (core : Core) : Nat := core.tracks.countP fun track => !track.isEmpty

theorem length_candidates (core : Core) (cycle : Cycle) :
    (core.candidates cycle).length = core.tracks.countP fun track => track.isReady cycle := by
  have hfrom (start : Nat) (tracks : List Track) :
      ((Text.numberFrom start tracks).filterMap fun numbered =>
        if numbered.2.isReady cycle then some numbered.1 else none).length =
          tracks.countP fun track => track.isReady cycle := by
    induction tracks generalizing start with
    | nil => rfl
    | cons track tracks ih =>
        unfold Text.numberFrom
        rw [List.countP_cons, ← ih (start + 1)]
        by_cases hready : track.isReady cycle = true
        · simp [hready]
        · simp [hready]
  exact hfrom 0 core.tracks

/-- A core with one working track at most has no choice. -/
theorem isDecided_of_working {core : Core} (h : core.working ≤ 1) (cycle : Cycle) :
    core.IsDecided cycle := by
  apply isDecided_of_length_candidates
  rw [length_candidates]
  refine Nat.le_trans (List.countP_mono_left fun track _ hready => ?_) h
  rw [(Track.isReady_iff.mp hready).1]
  rfl

theorem countP_set_le {tracks : List Track} {index : Nat} {track after : Track}
    (hget : tracks[index]? = some track) (hempty : track.isEmpty = true → after.isEmpty = true) :
    (tracks.set index after).countP (fun track => !track.isEmpty) ≤
      tracks.countP fun track => !track.isEmpty := by
  obtain ⟨hlt, heq⟩ := List.getElem?_eq_some_iff.mp hget
  rw [List.countP_set hlt, heq]
  cases htrack : track.isEmpty with
  | true => simp [hempty htrack]
  | false =>
      have hpos : 0 < tracks.countP fun track => !track.isEmpty :=
        List.countP_pos_iff.mpr ⟨track, List.mem_of_getElem? hget, by rw [htrack]; rfl⟩
      rw [Bool.not_false, if_pos rfl]
      split
      · omega
      · omega

theorem isEmpty_afterRetiring {track : Track} (h : track.isEmpty = true) :
    (afterRetiring track).isEmpty = true := by
  have hnil : track.instructions = [] := List.isEmpty_iff.mp h
  unfold afterRetiring
  split
  · unfold Track.isEmpty
    rw [hnil]
    rfl
  · exact h

/-- No track begins to work. -/
theorem TickCase.working_le {watch : Watch} {core : Core} {credits : CreditBoard} {cycle : Cycle}
    {tick : Tick} (h : core.TickCase watch credits cycle tick) :
    tick.core.working ≤ core.working := by
  unfold working
  cases h with
  | idle _ htracks _ _ _ _ =>
      exact Nat.le_of_eq (by rw [htracks])
  | turned _ index track hchosen hturn =>
      cases hturn with
      | drained _ htracks _ _ _ _ =>
          rw [htracks]
          exact countP_set_le hchosen.get isEmpty_afterRetiring
      | tried instr _ htracks _ _ _ _ =>
          rw [htracks]
          refine countP_set_le hchosen.get fun hempty => ?_
          unfold Track.isEmpty
          rw [Track.instructions_answered]
          exact isEmpty_afterRetiring hempty

/-! ## Ticks -/

section Ticks

variable (arbiter fixed : Arbiter) (watch : Watch) (core : Core) (credits : CreditBoard)
  (cycle : Cycle)

theorem countTick_seedless :
    core.seedless.countTick cycle = (core.countTick cycle).seedless := by
  unfold countTick
  cases hlast : core.lastTick with
  | none =>
      have hsame : core.seedless.lastTick = none := hlast
      rw [hsame]
      rfl
  | some last =>
      have hsame : core.seedless.lastTick = some last := hlast
      have hbusy : core.seedless.isBusy last = core.isBusy last := rfl
      rw [hsame]
      dsimp only
      rw [hbusy]
      split
      · rfl
      · split
        · rfl
        · rfl

theorem attempt_seedless (index : Nat) (track : Track) (instr : Instruction) :
    core.seedless.attempt watch credits cycle index track instr =
      (core.attempt watch credits cycle index track instr).seedless := by
  unfold attempt
  cases UnitName.ofText? instr.unit with
  | none => rfl
  | some unit =>
      have hsame : core.seedless.path.run watch core.seedless.spec credits unit instr cycle =
          core.path.run watch core.spec credits unit instr cycle := rfl
      dsimp only
      rw [hsame]
      cases (core.path.run watch core.spec credits unit instr cycle).reply with
      | error fault => rfl
      | ok outcome => rfl

/-- The turn of a track does not depend on the generator. -/
theorem advance_seedless (index : Nat) (track : Track) :
    core.seedless.advance watch credits cycle index track =
      (core.advance watch credits cycle index track).seedless := by
  unfold advance
  dsimp only
  cases (afterRetiring track).head? with
  | none => rfl
  | some instr =>
      dsimp only
      have hset : core.seedless.setTrack index (afterRetiring track) =
          (core.setTrack index (afterRetiring track)).seedless := rfl
      rw [hset, attempt_seedless]
      rfl

/-- The turn of a core is that of the track that is selected. -/
theorem turn_eq {index : Nat} {track : Track}
    (hselect : (core.select arbiter cycle).1 = some index)
    (hget : core.tracks[index]? = some track) :
    (core.turn arbiter watch credits cycle).seedless =
      (core.advance watch credits cycle index track).seedless := by
  unfold turn
  rw [← Prod.eta (core.select arbiter cycle), hselect, select_core]
  dsimp only [Option.bind_some]
  rw [hget]
  dsimp only [Option.map_some]
  rw [← advance_seedless, ← advance_seedless]
  rfl

/-- Where at most one track may be chosen, a tick is a function of the seedless core, but
for the generator. -/
theorem tickWith_seedless (hdecided : core.IsDecided cycle) :
    (core.tickWith arbiter watch credits cycle).seedless =
      (core.seedless.tickWith fixed watch credits cycle).seedless := by
  have hcount := core.countTick_seedless cycle
  have htracks := core.countTick_tracks cycle
  have hfinished := core.countTick_isFinished cycle cycle
  have hbusy := core.countTick_isBusy cycle cycle
  unfold tickWith
  dsimp only
  rw [hcount]
  generalize core.countTick cycle = counted at htracks hfinished hbusy
  have hsame : (counted.seedless.isFinished cycle || counted.seedless.isBusy cycle) =
      (counted.isFinished cycle || counted.isBusy cycle) := rfl
  rw [hsame]
  split
  · rfl
  · next hidle =>
      rw [hfinished, hbusy, Bool.or_eq_true, not_or, Bool.not_eq_true, Bool.not_eq_true] at hidle
      have hready : ∃ track ∈ counted.tracks, track.isReady cycle = true := by
        rw [htracks]
        exact exists_ready hidle.1 hidle.2
      obtain ⟨index, track, hselect, hchosen⟩ := exists_chosen arbiter hready
      have hsameReady : ∃ track ∈ counted.seedless.tracks, track.isReady cycle = true := hready
      obtain ⟨place, found, hplace, hfound⟩ := exists_chosen fixed hsameReady
      have hindex : index = place :=
        hdecided hidle.2 index place track found (hchosen.congr htracks.symm)
          (hfound.congr htracks.symm)
      subst hindex
      have hget : counted.tracks[index]? = some found := hfound.get
      have htrack : track = found := Option.some.inj (hchosen.get.symm.trans hget)
      subst htrack
      have hturn := counted.turn_eq arbiter watch credits cycle hselect hchosen.get
      have hother := counted.seedless.turn_eq fixed watch credits cycle hplace hfound.get
      rw [advance_seedless] at hother
      have hboth : (counted.turn arbiter watch credits cycle).seedless =
          (counted.seedless.turn fixed watch credits cycle).seedless := by
        rw [hturn, hother]
        rfl
      exact congrArg (fun tick : Tick =>
        { tick with events := watch.setCycle core.spec.ids.core cycle ++ tick.events }) hboth

end Ticks

/-- Cores that differ in their generators only still do so after a tick at which at most one
track may be chosen. -/
theorem tickWith_congr {core other : Core} {cycle : Cycle} (h : core.seedless = other.seedless)
    (hdecided : core.IsDecided cycle) (hother : other.IsDecided cycle)
    (arbiter otherArbiter : Arbiter) (watch : Watch) (credits : CreditBoard) :
    (core.tickWith arbiter watch credits cycle).seedless =
      (other.tickWith otherArbiter watch credits cycle).seedless := by
  rw [core.tickWith_seedless arbiter .seeded watch credits cycle hdecided, h,
    ← other.tickWith_seedless otherArbiter .seeded watch credits cycle hother]

end Core

/-! ## Driven cores -/

/-- What may be done to a core from outside: it ticks, the packets of its port are changed,
or the credit board is written to. -/
inductive Drive where
  | tick (cycle : Cycle)
  | exchange (change : Port → Port)
  | write (change : CreditBoard → CreditBoard)

/-- A core that is driven, the credit board that it sees, and its ticks, the last one
first. -/
structure Driven where
  core : Core
  credits : CreditBoard
  ticks : List Tick

namespace Driven

/-- A driven core with all generators forgotten. -/
def seedless (driven : Driven) : Driven :=
  ⟨driven.core.seedless, driven.credits, driven.ticks.map Tick.seedless⟩

/-- What a drive makes of a core. -/
def next (watch : Watch) (driven : Driven) : Drive → Driven
  | .tick cycle =>
      let tick := driven.core.tick watch driven.credits cycle
      ⟨tick.core, tick.credits, tick :: driven.ticks⟩
  | .exchange change =>
      { driven with
        core := { driven.core with
          path := { driven.core.path with port := change driven.core.path.port } } }
  | .write change => { driven with credits := change driven.credits }

/-- What drives make of a core, one after the other. -/
def after (watch : Watch) (driven : Driven) : List Drive → Driven
  | [] => driven
  | drive :: drives => (driven.next watch drive).after watch drives

/-- Whether a drive is a tick at which a choice is to be made. -/
def isChoice (driven : Driven) : Drive → Bool
  | .tick cycle => driven.core.isChoice cycle
  | _ => false

/-- Whether drives pass without a choice. -/
def IsForced (watch : Watch) : Driven → List Drive → Prop
  | _, [] => True
  | driven, drive :: drives =>
      driven.isChoice drive = false ∧ (driven.next watch drive).IsForced watch drives

section Drives

variable {watch : Watch} {driven other : Driven}

theorem isExclusive_next (h : driven.core.IsExclusive) (drive : Drive) :
    (driven.next watch drive).core.IsExclusive := by
  cases drive with
  | tick cycle =>
      exact (driven.core.tickWith_case .seeded watch driven.credits cycle).isExclusive h
  | exchange change => exact h
  | write change => exact h

/-- Driven cores that differ in their generators only still do so after a drive without a
choice. -/
theorem next_congr (h : driven.seedless = other.seedless) (hexclusive : driven.core.IsExclusive)
    (hother : other.core.IsExclusive) {drive : Drive} (hchoice : driven.isChoice drive = false) :
    (driven.next watch drive).seedless = (other.next watch drive).seedless := by
  obtain ⟨core, credits, ticks⟩ := driven
  obtain ⟨otherCore, otherCredits, otherTicks⟩ := other
  unfold seedless at h
  rw [Driven.mk.injEq] at h
  obtain ⟨hcore, hcredits, hticks⟩ := h
  dsimp only at hcore hcredits hticks hexclusive hother
  subst hcredits
  cases drive with
  | tick cycle =>
      have hsame : otherCore.isChoice cycle = core.isChoice cycle :=
        congrArg (fun seedless => seedless.isChoice cycle) hcore.symm
      have htick := Core.tickWith_congr hcore
        (Core.isDecided_of_not_isChoice hexclusive hchoice)
        (Core.isDecided_of_not_isChoice hother (hsame.trans hchoice)) .seeded .seeded watch credits
      unfold next seedless Core.tick
      rw [Driven.mk.injEq]
      refine ⟨congrArg Tick.core htick, ?_, ?_⟩
      · have hcredits : (core.tickWith .seeded watch credits cycle).seedless.credits =
            (otherCore.tickWith .seeded watch credits cycle).seedless.credits := by rw [htick]
        exact hcredits
      · rw [List.map_cons, List.map_cons, htick, hticks]
  | exchange change =>
      have hport : otherCore.path = core.path := congrArg (fun seedless => seedless.path) hcore.symm
      unfold next seedless
      dsimp only
      rw [Driven.mk.injEq, hport]
      refine ⟨?_, rfl, hticks⟩
      exact congrArg (fun seedless : Core =>
        { seedless with path := { core.path with port := change core.path.port } }) hcore
  | write change =>
      unfold next seedless
      dsimp only
      rw [hcore, hticks]

/-- Driven cores that differ in their generators only still do so after drives without a
choice. -/
theorem after_congr (h : driven.seedless = other.seedless) (hexclusive : driven.core.IsExclusive)
    (hother : other.core.IsExclusive) {drives : List Drive}
    (hforced : driven.IsForced watch drives) :
    (driven.after watch drives).seedless = (other.after watch drives).seedless := by
  induction drives generalizing driven other with
  | nil => exact h
  | cons drive drives ih =>
      obtain ⟨hchoice, hrest⟩ := hforced
      exact ih (next_congr h hexclusive hother hchoice) (isExclusive_next hexclusive drive)
        (isExclusive_next hother drive) hrest

end Drives

end Driven

namespace Core

/-- Whether two cores that are driven alike do the same, but for their generators, until
the first has a choice to make. -/
def AgreesUntilChoice (core other : Core) : Prop :=
  ∀ (watch : Watch) (credits : CreditBoard) (drives : List Drive),
    Driven.IsForced watch ⟨core, credits, []⟩ drives →
      (Driven.after watch ⟨core, credits, []⟩ drives).seedless =
        (Driven.after watch ⟨other, credits, []⟩ drives).seedless

theorem agreesUntilChoice {core other : Core} (h : core.seedless = other.seedless)
    (hexclusive : core.IsExclusive) (hother : other.IsExclusive) :
    core.AgreesUntilChoice other := by
  intro watch credits drives hforced
  refine Driven.after_congr ?_ hexclusive hother hforced
  unfold Driven.seedless
  dsimp only
  rw [h]

section Pasts

variable {spec : CoreSpec} {tracks : List (List Instruction)} {tensors : TensorTable}
  {seed : Nat}

/-- Until the first choice is to be made, the seed of a core does not matter. -/
theorem agreesUntilChoice_ofTracks (otherSeed : Nat) :
    (ofTracks spec tracks tensors seed).AgreesUntilChoice
      (ofTracks spec tracks tensors otherSeed) := by
  apply agreesUntilChoice
  · rw [seedless_ofTracks, seedless_ofTracks]
  · exact isExclusive_of_past .start
  · exact isExclusive_of_past .start

/-- Whatever a core has done, until the next choice is to be made its generator does not
matter. -/
theorem agreesUntilChoice_of_past {past : List PastTick} {core : Core}
    (h : Past (ofTracks spec tracks tensors seed) past core) (generator : Generator) :
    core.AgreesUntilChoice { core with generator } := by
  have hexclusive := isExclusive_of_past h
  exact agreesUntilChoice rfl hexclusive hexclusive

end Pasts

end Core

end CoreArray
