import CoreArray.Proofs.Datapath.Excerpt
import CoreArray.Proofs.Core.Choice
set_option autoImplicit false

/-!
# What is told of a core (SPEC §4.5, §10.2)

A tick tells of the clock, of the instruction that leaves a track and of the one that is
tried, and the unit tells of what it does.  Under every watch a core ticks in the same way,
and what is told is an excerpt of all that there is to tell (`isExcerpt_tickWith`).  So it
is, drive by drive, of a core that is driven from outside (`Driven.isExcerpt_after`).
-/

namespace CoreArray

namespace CoreIds

/-- The numbers of a core and of its units. -/
def all (ids : CoreIds) : List EntityId :=
  [ids.core, ids.bus, ids.cpu, ids.acc, ids.buffer, ids.ni]

theorem core_mem_all (ids : CoreIds) : ids.core ∈ ids.all := by simp [all]

theorem ofUnit_mem_all (ids : CoreIds) (unit : UnitName) : ids.ofUnit unit ∈ ids.all := by
  cases unit <;> simp [all, ofUnit]

end CoreIds

namespace Tick

/-- A tick without what is told of it. -/
def muted (tick : Tick) : Tick := { tick with events := [] }

/-- Whether at two ticks the same is done, and what is told of the one under a watch is an
excerpt of what is told of the other. -/
structure IsExcerpt (ids : List EntityId) (watch : Watch) (tick full : Tick) : Prop where
  same : tick.muted = full.muted
  events : Excerpt ids watch tick.events full.events

variable {ids : List EntityId} {watch : Watch} {tick full : Tick}

theorem IsExcerpt.core_eq (h : tick.IsExcerpt ids watch full) : tick.core = full.core := by
  have hcore : tick.muted.core = full.muted.core := by rw [h.same]
  exact hcore

theorem IsExcerpt.credits_eq (h : tick.IsExcerpt ids watch full) : tick.credits = full.credits := by
  have hcredits : tick.muted.credits = full.muted.credits := by rw [h.same]
  exact hcredits

theorem IsExcerpt.result_eq (h : tick.IsExcerpt ids watch full) : tick.result = full.result := by
  have hresult : tick.muted.result = full.muted.result := by rw [h.same]
  exact hresult

end Tick

namespace Core

section Ticks

variable (watch : Watch) (core : Core) (credits : CreditBoard) (cycle : Cycle)

theorem excerpt_openingEvents : Excerpt core.spec.ids.all watch (core.openingEvents watch)
    (core.openingEvents .everything) :=
  .sayAll core.spec.ids.core_mem_all .info _

theorem excerpt_outcomeEvents (index : Nat) (instr : Instruction) (outcome : Outcome) :
    Excerpt core.spec.ids.all watch (core.outcomeEvents watch index instr outcome)
      (core.outcomeEvents .everything index instr outcome) := by
  have hcore := core.spec.ids.core_mem_all
  cases outcome with
  | complete doneAt => exact .append (.issue hcore _ _) (.say hcore .trace _)
  | notYet => exact .stall hcore _ _

theorem isExcerpt_attempt (index : Nat) (track : Track) (instr : Instruction) :
    (core.attempt watch credits cycle index track instr).IsExcerpt core.spec.ids.all watch
      (core.attempt .everything credits cycle index track instr) := by
  unfold attempt
  cases UnitName.ofText? instr.unit with
  | none => exact ⟨rfl, .say core.spec.ids.core_mem_all .error _⟩
  | some unit =>
      have hrun := Datapath.isExcerpt_run watch credits core.path instr cycle
        (core.spec.ids.ofUnit_mem_all unit)
      have hreply := congrArg Execution.reply hrun.same
      have hpath := congrArg Execution.path hrun.same
      have hcredits := congrArg Execution.credits hrun.same
      unfold Execution.muted at hreply hpath hcredits
      dsimp only at hreply hpath hcredits ⊢
      rw [hreply, hpath, hcredits]
      split
      · exact ⟨rfl, hrun.events⟩
      · exact ⟨rfl, hrun.events.append (excerpt_outcomeEvents watch _ index instr _)⟩

theorem isExcerpt_advance (index : Nat) (track : Track) :
    (core.advance watch credits cycle index track).IsExcerpt core.spec.ids.all watch
      (core.advance .everything credits cycle index track) := by
  -- What the retirement tells is an excerpt, and the attempt after it adds to both.
  have hattempt (instr : Instruction) := isExcerpt_attempt watch
    (core.setTrack index (afterRetiring track)) credits cycle index (afterRetiring track) instr
  unfold advance
  dsimp only
  cases retiring? track with
  | none =>
      rw [Option.map_none]
      cases (afterRetiring track).head? with
      | none => exact ⟨rfl, .nil⟩
      | some instr =>
          exact ⟨congrArg (fun tick : Tick => { tick with retired := none }) (hattempt instr).same,
            (hattempt instr).events⟩
  | some retired =>
      have hretirement : Excerpt core.spec.ids.all watch
          (watch.retire core.spec.ids.core index retired.text)
          (Watch.everything.retire core.spec.ids.core index retired.text) :=
        .retire core.spec.ids.core_mem_all _ _
      rw [Option.map_some]
      cases (afterRetiring track).head? with
      | none => exact ⟨rfl, hretirement⟩
      | some instr =>
          exact ⟨congrArg (fun tick : Tick => { tick with retired := some (index, retired) })
            (hattempt instr).same, hretirement.append (hattempt instr).events⟩

theorem isExcerpt_turn (arbiter : Arbiter) :
    (core.turn arbiter watch credits cycle).IsExcerpt core.spec.ids.all watch
      (core.turn arbiter .everything credits cycle) := by
  unfold turn
  dsimp only
  split
  · exact ⟨rfl, .nil⟩
  · exact isExcerpt_advance watch (core.select arbiter cycle).2 credits cycle _ _

/-- Under every watch a core ticks in the same way, and what is told is an excerpt. -/
theorem isExcerpt_tickWith (arbiter : Arbiter) :
    (core.tickWith arbiter watch credits cycle).IsExcerpt core.spec.ids.all watch
      (core.tickWith arbiter .everything credits cycle) := by
  have hclock : Excerpt core.spec.ids.all watch (watch.setCycle core.spec.ids.core cycle)
      (Watch.everything.setCycle core.spec.ids.core cycle) :=
    .setCycle core.spec.ids.core_mem_all _
  unfold tickWith
  dsimp only
  split
  · exact ⟨rfl, hclock.append .nil⟩
  · have hturn := isExcerpt_turn watch (core.countTick cycle) credits cycle arbiter
    rw [countTick_spec] at hturn
    exact ⟨hturn.same, hclock.append hturn.events⟩

end Ticks

end Core

namespace Driven

/-- A driven core without what is told of its ticks. -/
def muted (driven : Driven) : Driven := { driven with ticks := driven.ticks.map Tick.muted }

/-- What is told of a driven core. -/
def events (driven : Driven) : List Event := driven.ticks.reverse.flatMap Tick.events

/-- Whether two driven cores do the same, and what is told of the one under a watch is an
excerpt of what is told of the other. -/
structure IsExcerpt (ids : List EntityId) (watch : Watch) (driven full : Driven) : Prop where
  same : driven.muted = full.muted
  events : Excerpt ids watch driven.events full.events

variable {watch : Watch} {driven full : Driven}

theorem isExcerpt_next (h : driven.IsExcerpt driven.core.spec.ids.all watch full) (drive : Drive) :
    (driven.next watch drive).IsExcerpt driven.core.spec.ids.all watch
      (full.next .everything drive) := by
  obtain ⟨core, credits, ticks⟩ := driven
  obtain ⟨fullCore, fullCredits, fullTicks⟩ := full
  obtain ⟨hsame, hevents⟩ := h
  unfold muted at hsame
  rw [Driven.mk.injEq] at hsame
  obtain ⟨hcore, hcredits, hticks⟩ := hsame
  dsimp only at hcore hcredits hticks
  subst hcore hcredits
  cases drive with
  | tick cycle =>
      have htick := core.isExcerpt_tickWith watch credits cycle .seeded
      have hcore := htick.core_eq
      have hcredits := htick.credits_eq
      refine ⟨?_, ?_⟩
      · unfold next muted Core.tick
        dsimp only
        rw [List.map_cons, List.map_cons, htick.same, hticks, hcore, hcredits]
      · unfold next events Core.tick
        dsimp only
        rw [List.reverse_cons, List.flatMap_append, List.flatMap_singleton, List.reverse_cons,
          List.flatMap_append, List.flatMap_singleton]
        exact hevents.append htick.events
  | exchange change =>
      refine ⟨?_, hevents⟩
      unfold next muted
      dsimp only
      rw [hticks]
  | write change =>
      refine ⟨?_, hevents⟩
      unfold next muted
      dsimp only
      rw [hticks]

theorem spec_next (watch : Watch) (driven : Driven) (drive : Drive) :
    (driven.next watch drive).core.spec = driven.core.spec := by
  cases drive with
  | tick cycle => exact Core.tickWith_spec .seeded watch driven.core driven.credits cycle
  | exchange change => rfl
  | write change => rfl

/-- However it is driven, a core does the same under every watch, and what is told is an
excerpt. -/
theorem isExcerpt_after (h : driven.IsExcerpt driven.core.spec.ids.all watch full)
    (drives : List Drive) :
    (driven.after watch drives).IsExcerpt driven.core.spec.ids.all watch
      (full.after .everything drives) := by
  induction drives generalizing driven full with
  | nil => exact h
  | cons drive drives ih =>
      have hnext := isExcerpt_next h drive
      rw [← spec_next watch driven drive] at hnext ⊢
      exact ih hnext

end Driven

end CoreArray
