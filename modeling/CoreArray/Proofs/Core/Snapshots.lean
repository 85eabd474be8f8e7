import CoreArray.Proofs.Core.Past
set_option autoImplicit false

/-!
# Snapshots and progress (SPEC §5, §10.8)

A snapshot of a core has the marker and the number of instructions of each track, and nothing
of the instructions, the tensors or the units.  That is enough to see whether the core has
done anything.  The work that is left can be read off the snapshot (`work_eq_sum_snapshot`);
it grows at no tick, and it falls at every tick that makes progress, be it one that fails.
So a core that comes back to a snapshot has made no progress in between
(`snapshot_eq_iff_stalled`).
-/

namespace CoreArray

/-- Whether no tick of a past has done anything to the core: no instruction has left its
track or been taken up, and what units have is as it was. -/
structure Stalled (past : List PastTick) (start core : Core) : Prop where
  retired : ∀ entry ∈ past, entry.tick.retired = none
  refused : ∀ entry ∈ past, ∀ attempt, entry.tick.attempt = some attempt →
    ∀ doneAt, attempt.reply ≠ .ok (.complete doneAt)
  /-- No tick has queued or taken a packet; between ticks the network may. -/
  port : ∀ entry ∈ past, entry.tick.core.path.port = entry.before.path.port
  tensors : core.path.tensors = start.path.tensors
  counters : core.path.counters = start.path.counters
  tracks : core.tracks = start.tracks

/-- A tick makes no progress if nothing leaves a track and nothing is taken up. -/
theorem Tick.progresses_eq_false_iff {tick : Tick} :
    tick.progresses = false ↔ tick.retired = none ∧
      ∀ attempt, tick.attempt = some attempt →
        ∀ doneAt, attempt.reply ≠ .ok (.complete doneAt) := by
  unfold progresses
  rw [Bool.or_eq_false_iff, Option.isSome_eq_false_iff, Option.isNone_iff_eq_none]
  refine and_congr_right fun _ => ?_
  cases tick.attempt with
  | none => simp
  | some attempt =>
      rw [Option.any_some, Bool.eq_false_iff, ne_eq, isTaken_iff]
      simp

namespace Core

/-- The work that is left on a core can be read off its snapshot. -/
theorem work_eq_sum_snapshot (core : Core) :
    core.work = (core.snapshot.map outlineWork).sum := by
  unfold work snapshot
  rw [List.map_map]
  rfl

end Core

namespace Past

open CoreArray.Core

variable {start core : Core} {past : List PastTick}

theorem work_le (h : Past start past core) : core.work ≤ start.work := by
  induction h with
  | start => exact Nat.le_refl _
  | tick _ arbiter watch credits cycle ih =>
      exact Nat.le_trans (tickWith_case arbiter watch _ credits cycle).work_le ih
  | exchange _ port ih => exact ih

/-- A core that has made progress has less work left. -/
theorem work_lt (h : Past start past core) {entry : PastTick} (hmem : entry ∈ past)
    (hprogress : entry.tick.progresses = true) : core.work < start.work := by
  induction h with
  | start => simp at hmem
  | @tick past before hpast arbiter watch credits cycle ih =>
      have hcase := tickWith_case arbiter watch before credits cycle
      rcases List.mem_cons.mp hmem with rfl | hearlier
      · exact Nat.lt_of_lt_of_le (hcase.work_lt hprogress) hpast.work_le
      · exact Nat.lt_of_le_of_lt hcase.work_le (ih hearlier)
  | exchange _ port ih => exact ih hmem

/-- Without progress everything but the port stays as it is. -/
theorem stalled (h : Past start past core)
    (hidle : ∀ entry ∈ past, entry.tick.progresses = false) : Stalled past start core := by
  induction h with
  | start => exact ⟨by simp, by simp, by simp, rfl, rfl, rfl⟩
  | @tick past before hpast arbiter watch credits cycle ih =>
      obtain ⟨hretired, hrefused, hport, htensors, hcounters, htracks⟩ :=
        ih fun entry hmem => hidle entry (List.mem_cons_of_mem _ hmem)
      have hlast := hidle _ List.mem_cons_self
      obtain ⟨hsame, hpath⟩ := (tickWith_case arbiter watch before credits cycle).stays hlast
      obtain ⟨hnone, hreplies⟩ := Tick.progresses_eq_false_iff.mp hlast
      refine ⟨?_, ?_, ?_, ?_, ?_, hsame.trans htracks⟩
      · exact List.forall_mem_cons.mpr ⟨hnone, hretired⟩
      · exact List.forall_mem_cons.mpr ⟨hreplies, hrefused⟩
      · exact List.forall_mem_cons.mpr ⟨congrArg Datapath.port hpath, hport⟩
      · rw [hpath, htensors]
      · rw [hpath, hcounters]
  | exchange _ port ih =>
      obtain ⟨hretired, hrefused, hport, htensors, hcounters, htracks⟩ := ih hidle
      exact ⟨hretired, hrefused, hport, htensors, hcounters, htracks⟩

end Past

namespace Core

/-- However a core ticks, whatever the cycles, and whether or not ticks fail: it comes back to
a snapshot exactly if it has done nothing since. -/
theorem snapshot_eq_iff_stalled {start core : Core} {past : List PastTick}
    (h : Past start past core) : core.snapshot = start.snapshot ↔ Stalled past start core := by
  constructor
  · intro hsame
    refine h.stalled fun entry hmem => Bool.eq_false_iff.mpr fun hprogress => ?_
    have hlt := h.work_lt hmem hprogress
    rw [work_eq_sum_snapshot, work_eq_sum_snapshot, hsame] at hlt
    exact Nat.lt_irrefl _ hlt
  · intro hstalled
    exact congrArg (List.map Track.outline) hstalled.tracks

/-- A core of which one track waits for a packet and the other has an instruction that is
refused. -/
def stuckCore : Core :=
  ofTracks default [[.plain "NI" "recv" [7]], [.plain "CPU" "poll" []]] .empty 0

/-- Ticks of this core, its clock going forth and back. -/
def stuckRun : List PastTick × Core :=
  stuckCore.pastTicks .seeded .silent (.allOpened 1) [3, 9, 2, 2, 5]

/-- One of them fails, and none does anything. -/
theorem stuck_core_stalled :
    (stuckRun.1.map fun entry => entry.tick.result.isOk) = [true, true, false, true, true] ∧
      stuckRun.2.snapshot = stuckCore.snapshot ∧ Stalled stuckRun.1 stuckCore stuckRun.2 := by
  have hsame : stuckRun.2.snapshot = stuckCore.snapshot := by decide +kernel
  exact ⟨by decide +kernel, hsame, (snapshot_eq_iff_stalled (past_pastTicks _ _ _ _ _)).mp hsame⟩

end Core

end CoreArray
