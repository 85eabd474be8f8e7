import CoreArray.Machine.Build
import CoreArray.Proofs.Log.Excerpt
set_option autoImplicit false

/-!
# Recordings (SPEC §10.2)

While something is built, entities are made, and each gets the next number and, by its full
name, the level up to which it is told about.  `watchOf` is the watch to which this leads.

`IsRecorded` says of a build that the level and the filters decide nothing in it: the same
entities are made and the same comes of it under all of them, and what is told is an excerpt
of the same events.  It is proved for the steps that builds consist of, so that of a build
it is proved step by step, with the entities that it plans to make.
-/

namespace CoreArray

/-- If the number of an entity is not taken, the entity is entered with its level, and the
other numbers keep theirs. -/
theorem Register.add_of_unused {register : Register} {id : EntityId} (name : String)
    (h : register.levels.contains id = false) :
    ∃ levels, register.add id name = (.ok (), { register with levels }) ∧
      (∀ other, levels.getD other register.defaultLevel =
        if id = other then register.levelFor name
        else register.levels.getD other register.defaultLevel) ∧
      ∀ other, levels.contains other = true → other = id ∨ register.levels.contains other = true := by
  unfold add
  dsimp only
  split
  · next hdefault =>
      refine ⟨register.levels, rfl, fun other => ?_, fun other htaken => .inr htaken⟩
      split
      · next heq =>
          rw [← heq, hdefault, Std.ExtTreeMap.getD_eq_fallback_of_contains_eq_false h]
      · rfl
  · rw [h, if_neg Bool.false_ne_true]
    refine ⟨_, rfl, fun other => ?_, fun other htaken => ?_⟩
    · rw [Std.ExtTreeMap.getD_insert]
      by_cases heq : id = other
      · rw [if_pos heq, if_pos (Std.compare_eq_iff_eq.mpr heq)]
      · rw [if_neg heq, if_neg fun hcompare => heq (Std.compare_eq_iff_eq.mp hcompare)]
    · rw [Std.ExtTreeMap.contains_insert, Bool.or_eq_true] at htaken
      rcases htaken with hcompare | htaken
      · exact .inl (Std.compare_eq_iff_eq.mp (eq_of_beq hcompare)).symm
      · exact .inr htaken

/-! ## Watches -/

/-- The level up to which the entity of a number, one of some, is told about. -/
def levelAmong (level : Level) (filters : List Filter) (entities : List Entity) (id : EntityId) :
    Level :=
  match entities.find? fun entity => entity.id == id with
  | some entity => (Register.empty level filters).levelFor entity.fullName
  | none => level

/-- What is told of some entities under a level and filters. -/
def watchOf (level : Level) (filters : List Filter) (entities : List Entity) : Watch :=
  fun id severity => severity.within (levelAmong level filters entities id)

section Levels

variable {level : Level} {filters : List Filter} {made more : List Entity} {id : EntityId}

/-- Further entities change nothing for those that were made. -/
theorem levelAmong_append (h : id ∈ made.map Entity.id) :
    levelAmong level filters (made ++ more) id = levelAmong level filters made id := by
  obtain ⟨entity, hmem, rfl⟩ := List.mem_map.mp h
  unfold levelAmong
  rw [List.find?_append]
  cases hfind : made.find? fun other => other.id == entity.id with
  | none =>
      have hnone := List.find?_eq_none.mp hfind entity hmem
      simp at hnone
  | some found => rfl

theorem levelAmong_of_not_mem (h : id ∉ made.map Entity.id) :
    levelAmong level filters made id = level := by
  have hnone : (made.find? fun entity => entity.id == id) = none := by
    rw [List.find?_eq_none]
    intro entity hmem heq
    exact h (List.mem_map.mpr ⟨entity, hmem, eq_of_beq heq⟩)
  unfold levelAmong
  rw [hnone]

theorem levelAmong_append_new {entity : Entity} (h : id ∉ made.map Entity.id) :
    levelAmong level filters (made ++ [entity]) id =
      if entity.id = id then (Register.empty level filters).levelFor entity.fullName else level := by
  have hnone : (made.find? fun other => other.id == id) = none := by
    rw [List.find?_eq_none]
    intro other hmem heq
    exact h (List.mem_map.mpr ⟨other, hmem, eq_of_beq heq⟩)
  unfold levelAmong
  rw [List.find?_append, hnone, Option.none_or, List.find?_singleton]
  by_cases heq : entity.id = id
  · rw [if_pos heq, heq, beq_self_eq_true, if_pos rfl]
  · rw [if_neg heq, beq_eq_false_iff_ne.mpr heq]
    rfl

/-- At the most detailed level and without filters everything is told. -/
theorem hears_watchOf_trace (entities : List Entity) (event : Event) :
    (watchOf .trace [] entities).hears event = true := by
  have hlevel (id : EntityId) : levelAmong .trace [] entities id = .trace := by
    unfold levelAmong
    split <;> rfl
  unfold Watch.hears watchOf
  rw [hlevel]
  cases event.level <;> rfl

end Levels

/-! ## Ledgers and journals -/

/-- The entities that were made, and all events that there were to tell. -/
structure Ledger where
  made : List Entity
  events : List Event

/-- Whether the entities of a ledger are numbered in their order, and its events concern
them. -/
structure Ledger.IsSound (ledger : Ledger) : Prop where
  numbered : ∀ (place : Nat) (entity : Entity), ledger.made[place]? = some entity →
    entity.id = Register.firstId + place
  sources : ∀ event ∈ ledger.events, event.source ∈ ledger.made.map Entity.id

/-- Whether a journal is that of a ledger under a level and filters. -/
structure Journal.Records (level : Level) (filters : List Filter) (ledger : Ledger)
    (journal : Journal) : Prop where
  tracker : ∃ levels, journal.tracker =
      .filtered ⟨Register.firstId + ledger.made.length, level, filters, levels⟩ ∧
    (∀ id, levels.getD id level = levelAmong level filters ledger.made id) ∧
    ∀ id, levels.contains id = true → id < Register.firstId + ledger.made.length
  events : journal.events = ledger.events.filter (watchOf level filters ledger.made).hears

namespace Ledger

theorem IsSound.id_lt {ledger : Ledger} (h : ledger.IsSound) {id : EntityId}
    (hmem : id ∈ ledger.made.map Entity.id) :
    id < Register.firstId + ledger.made.length := by
  obtain ⟨entity, hentity, rfl⟩ := List.mem_map.mp hmem
  obtain ⟨place, hget⟩ := List.mem_iff_getElem?.mp hentity
  obtain ⟨hlt, -⟩ := List.getElem?_eq_some_iff.mp hget
  rw [h.numbered place entity hget]
  exact Nat.add_lt_add_left hlt _

/-- A ledger after an entity with the next number was made. -/
def enter (ledger : Ledger) (entity : Entity) : Ledger :=
  { ledger with made := ledger.made ++ [entity] }

theorem IsSound.enter {ledger : Ledger} (h : ledger.IsSound) {entity : Entity}
    (hid : entity.id = Register.firstId + ledger.made.length) : (ledger.enter entity).IsSound := by
  refine ⟨fun place other hget => ?_, fun event hmem => ?_⟩
  · unfold Ledger.enter at hget
    rw [List.getElem?_append] at hget
    split at hget
    · exact h.numbered place other hget
    · next hge =>
        obtain ⟨hlt, heq⟩ := List.getElem?_eq_some_iff.mp hget
        rw [List.length_singleton] at hlt
        have hplace : place = ledger.made.length := by omega
        rw [List.getElem_singleton] at heq
        rw [← heq, hid, hplace]
  · unfold Ledger.enter
    rw [List.map_append]
    exact List.mem_append_left _ (h.sources event hmem)

/-- A ledger after more events. -/
def tell (ledger : Ledger) (events : List Event) : Ledger :=
  { ledger with events := ledger.events ++ events }

theorem IsSound.tell {ledger : Ledger} (h : ledger.IsSound) {events : List Event}
    (hevents : ∀ event ∈ events, event.source ∈ ledger.made.map Entity.id) :
    (ledger.tell events).IsSound := by
  refine ⟨h.numbered, fun event hmem => ?_⟩
  rcases List.mem_append.mp hmem with hmem | hmem
  · exact h.sources event hmem
  · exact hevents event hmem

end Ledger

namespace Journal

variable {level : Level} {filters : List Filter} {ledger : Ledger} {journal : Journal}

/-- What is told follows from the entities that were made. -/
theorem Records.watch_eq (h : journal.Records level filters ledger) :
    journal.tracker.watch = watchOf level filters ledger.made := by
  obtain ⟨levels, htracker, hlevels, -⟩ := h.tracker
  rw [htracker]
  funext id severity
  exact congrArg severity.within (hlevels id)

theorem Records.tell (h : journal.Records level filters ledger) {events full : List Event}
    (hevents : events = full.filter (watchOf level filters ledger.made).hears) :
    ({ journal with events := journal.events ++ events } : Journal).Records level filters
      (ledger.tell full) := by
  refine ⟨h.tracker, ?_⟩
  unfold Ledger.tell
  dsimp only
  rw [h.events, hevents, List.filter_append]

/-- The next number is not taken, so that the entity is made, and its level is entered. -/
theorem Records.make (h : journal.Records level filters ledger) (hsound : ledger.IsSound)
    {ofId : EntityId → Entity} (hid : ∀ id, (ofId id).id = id) {next : EntityId}
    (hnext : next = Register.firstId + ledger.made.length) :
    ∃ tracker, journal.tracker.make ofId = (.ok (ofId next), tracker) ∧
      ({ journal with tracker } : Journal).Records level filters (ledger.enter (ofId next)) := by
  obtain ⟨levels, htracker, hlevels, hbelow⟩ := h.tracker
  rw [← hnext] at htracker hbelow
  have hunused : levels.contains next = false := by
    rw [Bool.eq_false_iff]
    intro htaken
    exact absurd (hbelow next htaken) (Nat.lt_irrefl next)
  have hlength : Register.firstId + (ledger.enter (ofId next)).made.length = next + 1 := by
    unfold Ledger.enter
    rw [List.length_append, List.length_singleton, hnext]
    rfl
  obtain ⟨after, hadd, hafter, htaken⟩ := @Register.add_of_unused
    ⟨next + 1, level, filters, levels⟩ next (ofId next).fullName hunused
  refine ⟨.filtered ⟨next + 1, level, filters, after⟩, ?_, ⟨after, ?_, ?_, ?_⟩, ?_⟩
  · unfold Tracker.make Tracker.freshId Tracker.add
    rw [htracker]
    dsimp only
    rw [hadd]
  · rw [hlength]
  · intro id
    rw [hafter]
    unfold Ledger.enter
    by_cases hmem : id ∈ ledger.made.map Entity.id
    · have hne : next ≠ id := Nat.ne_of_gt (hnext ▸ hsound.id_lt hmem)
      rw [levelAmong_append hmem, if_neg hne, hlevels]
    · rw [levelAmong_append_new hmem, hid, hlevels, levelAmong_of_not_mem hmem]
      rfl
  · intro id hcontains
    rw [hlength]
    rcases htaken id hcontains with rfl | hold
    · exact Nat.lt_succ_self id
    · exact Nat.lt_succ_of_lt (hbelow id hold)
  · rw [h.events]
    apply List.filter_congr
    intro event hmem
    unfold Watch.hears watchOf Ledger.enter
    rw [levelAmong_append (hsound.sources event hmem)]

end Journal

/-! ## Builds -/

namespace Build

/-- Make an entity from the next number. -/
def make (ofId : EntityId → Entity) : Build Entity := do
  let journal ← get
  let (result, tracker) := journal.tracker.make ofId
  set { journal with tracker }
  require .repeated result

/-- Make the topmost entity. -/
def enterTop (name : String) : Build Entity := make fun id => .top id name

theorem enter_eq_make (parent : Entity) (name : String) :
    enter parent name = make fun id => .child parent id name := rfl

/-- Let something that was made go on under the watch of the tracker, and tell what there
is to tell of it. -/
def live {β : Type} (go : Watch → β × List Event) : Build β := do
  let journal ← get
  let (value, events) := go journal.tracker.watch
  set { journal with events := journal.events ++ events }
  return value

/-- Whether the same comes of a build under every level and filters, once some entities
were made: it makes the planned entities, or the first of them if it fails; its result is
the same and, if there is one, as it should be; and what is told is an excerpt of the same
events. -/
def IsRecorded {α : Type} (build : Build α) (made planned : List Entity) (post : α → Prop) :
    Prop :=
  ∀ events, Ledger.IsSound ⟨made, events⟩ →
    ∃ (result : Except BuildFault α) (after : Ledger), after.IsSound ∧
      after.made <+: made ++ planned ∧
      (∀ value, result = .ok value → after.made = made ++ planned ∧ post value) ∧
      ∀ (level : Level) (filters : List Filter) (journal : Journal),
        journal.Records level filters ⟨made, events⟩ →
          ∃ final, build.run.run journal = (result, final) ∧ final.Records level filters after

section Steps

variable {α β : Type} {made planned more : List Entity} {post : α → Prop} {postNext : β → Prop}

theorem isRecorded_pure {value : α} (h : post value) :
    (pure value : Build α).IsRecorded made [] post := by
  intro events hsound
  refine ⟨.ok value, ⟨made, events⟩, hsound, List.prefix_append made [], ?_, ?_⟩
  · intro other heq
    cases heq
    exact ⟨(List.append_nil made).symm, h⟩
  · intro level filters journal hrecords
    exact ⟨journal, rfl, hrecords⟩

theorem isRecorded_throw (fault : BuildFault) :
    (throw fault : Build α).IsRecorded made planned post := by
  intro events hsound
  refine ⟨.error fault, ⟨made, events⟩, hsound, List.prefix_append made planned, by simp, ?_⟩
  intro level filters journal hrecords
  exact ⟨journal, rfl, hrecords⟩

theorem isRecorded_require {ε : Type} {fault : ε → BuildFault} {result : Except ε α} :
    (require fault result).IsRecorded made [] fun value => result = .ok value := by
  cases result with
  | error cause => exact isRecorded_throw (fault cause)
  | ok value => exact isRecorded_pure rfl

/-- What is done after a recorded build is recorded with it. -/
theorem IsRecorded.bind {build : Build α} {next : α → Build β}
    (h : build.IsRecorded made planned post)
    (hnext : ∀ value, post value → (next value).IsRecorded (made ++ planned) more postNext) :
    (build >>= next).IsRecorded made (planned ++ more) postNext := by
  intro events hsound
  obtain ⟨result, between, hbetween, hprefix, hvalue, hruns⟩ := h events hsound
  cases result with
  | error fault =>
      refine ⟨.error fault, between, hbetween, ?_, by simp, ?_⟩
      · rw [← List.append_assoc]
        exact hprefix.trans (List.prefix_append _ more)
      · intro level filters journal hrecords
        obtain ⟨final, hrun, hfinal⟩ := hruns level filters journal hrecords
        refine ⟨final, ?_, hfinal⟩
        rw [ExceptT.run_bind]
        simp only [StateT.run_bind]
        rw [hrun]
        rfl
  | ok value =>
      obtain ⟨hmade, hpost⟩ := hvalue value rfl
      obtain ⟨made', told⟩ := between
      dsimp only at hmade
      subst hmade
      obtain ⟨last, after, hafter, hprefix, hlast, hnexts⟩ := hnext value hpost told hbetween
      rw [List.append_assoc] at hprefix hlast
      refine ⟨last, after, hafter, hprefix, hlast, ?_⟩
      intro level filters journal hrecords
      obtain ⟨middle, hrun, hmiddle⟩ := hruns level filters journal hrecords
      obtain ⟨final, hrunNext, hfinal⟩ := hnexts level filters middle hmiddle
      refine ⟨final, ?_, hfinal⟩
      rw [ExceptT.run_bind]
      simp only [StateT.run_bind]
      rw [hrun]
      exact hrunNext

/-- What is done after a build that makes no entity. -/
theorem IsRecorded.andThen {build : Build α} {next : α → Build β}
    (h : build.IsRecorded made [] post)
    (hnext : ∀ value, post value → (next value).IsRecorded made more postNext) :
    (build >>= next).IsRecorded made more postNext := by
  rw [← List.append_nil made] at hnext
  exact h.bind hnext

/-- What is done after a build and makes no entity. -/
theorem IsRecorded.andLast {build : Build α} {next : α → Build β}
    (h : build.IsRecorded made planned post)
    (hnext : ∀ value, post value → (next value).IsRecorded (made ++ planned) [] postNext) :
    (build >>= next).IsRecorded made planned postNext := by
  rw [← List.append_nil planned]
  exact h.bind hnext

theorem IsRecorded.mono {build : Build α} {weaker : α → Prop}
    (h : build.IsRecorded made planned post) (hpost : ∀ value, post value → weaker value) :
    build.IsRecorded made planned weaker := by
  intro events hsound
  obtain ⟨result, after, hafter, hprefix, hvalue, hruns⟩ := h events hsound
  exact ⟨result, after, hafter, hprefix,
    fun value heq => (hvalue value heq).imp_right (hpost value), hruns⟩

theorem isRecorded_make {ofId : EntityId → Entity} (hid : ∀ id, (ofId id).id = id)
    {next : EntityId} (hnext : next = Register.firstId + made.length) :
    (make ofId).IsRecorded made [ofId next] fun entity => entity = ofId next := by
  intro events hsound
  have hnew : (ofId next).id = Register.firstId + made.length := (hid next).trans hnext
  refine ⟨.ok (ofId next), Ledger.enter ⟨made, events⟩ (ofId next), hsound.enter hnew,
    List.prefix_refl _, ?_, ?_⟩
  · intro entity heq
    cases heq
    exact ⟨rfl, rfl⟩
  · intro level filters journal hrecords
    obtain ⟨tracker, hmake, hafter⟩ := hrecords.make hsound hid hnext
    refine ⟨_, ?_, hafter⟩
    have hrun : (make ofId).run.run journal =
        (require .repeated (journal.tracker.make ofId).1).run.run
          { journal with tracker := (journal.tracker.make ofId).2 } := rfl
    rw [hrun, hmake]
    rfl

/-- What is done after an entity was made. -/
theorem isRecorded_enter {parent : Entity} {name : String} {next : Entity → Build β}
    {id : EntityId} (hid : id = Register.firstId + made.length)
    (hnext : (next (.child parent id name)).IsRecorded (made ++ [.child parent id name]) more
      postNext) :
    (enter parent name >>= next).IsRecorded made (.child parent id name :: more) postNext := by
  have hmake := @isRecorded_make made (fun id => .child parent id name) (fun _ => rfl) id hid
  rw [enter_eq_make]
  apply hmake.bind
  intro entity heq
  rw [heq]
  exact hnext

/-- What a build does that lets something go on under the watch and tells of it. -/
theorem isRecorded_of_run {build : Build β} {go : Watch → β × List Event}
    (hrun : ∀ journal, build.run.run journal = (.ok (go journal.tracker.watch).1,
      { journal with events := journal.events ++ (go journal.tracker.watch).2 }))
    (h : ∀ watch, (go watch).1 = (go .everything).1 ∧
      Excerpt (made.map Entity.id) watch (go watch).2 (go .everything).2) :
    build.IsRecorded made [] fun value => value = (go .everything).1 := by
  intro events hsound
  refine ⟨.ok (go .everything).1, Ledger.tell ⟨made, events⟩ (go .everything).2,
    hsound.tell (h .everything).2.sources, List.prefix_append made [], ?_, ?_⟩
  · intro value heq
    cases heq
    exact ⟨(List.append_nil made).symm, rfl⟩
  · intro level filters journal hrecords
    obtain ⟨hsame, hexcerpt⟩ := h journal.tracker.watch
    have hheard := hexcerpt.heard
    rw [hrecords.watch_eq] at hheard
    refine ⟨_, (hrun journal).trans (by rw [hsame]), ?_⟩
    rw [hrecords.watch_eq]
    exact hrecords.tell hheard

theorem isRecorded_live {go : Watch → β × List Event}
    (h : ∀ watch, (go watch).1 = (go .everything).1 ∧
      Excerpt (made.map Entity.id) watch (go watch).2 (go .everything).2) :
    (live go).IsRecorded made [] fun value => value = (go .everything).1 :=
  isRecorded_of_run (fun _ => rfl) h

theorem isRecorded_tell {events : Watch → List Event}
    (h : ∀ watch, Excerpt (made.map Entity.id) watch (events watch) (events .everything)) :
    (tell events).IsRecorded made [] fun _ => True := by
  have hrun (journal : Journal) : (tell events).run.run journal =
      (.ok (), { journal with events := journal.events ++ events journal.tracker.watch }) := rfl
  have htold := @isRecorded_of_run Unit made (tell events) (fun watch => ((), events watch)) hrun
    fun watch => ⟨rfl, h watch⟩
  exact htold.mono fun _ _ => trivial

end Steps

/-! ## Whole builds -/

/-- Whether a tracker only observes a build that makes some entities: the result is the
same under every level and filters, and what is told are those of all events whose level is
within that of the entity that they concern. -/
structure OnlyObserved {α : Type} (build : Build α) (entities : List Entity) : Prop where
  /-- The entities are told apart by their numbers. -/
  numbered : entities.map Entity.id = List.range' Register.firstId entities.length
  same : ∀ (level : Level) (filters : List Filter),
    (build.start (.ofLevel level filters)).1 = (build.start (.ofLevel .trace [])).1
  excerpt : ∀ (level : Level) (filters : List Filter),
    Excerpt (entities.map Entity.id) (watchOf level filters entities)
      (build.start (.ofLevel level filters)).2.events
      (build.start (.ofLevel .trace [])).2.events

theorem records_ofLevel (level : Level) (filters : List Filter) :
    (⟨.ofLevel level filters, []⟩ : Journal).Records level filters ⟨[], []⟩ := by
  refine ⟨⟨∅, rfl, fun id => ?_, fun id htaken => ?_⟩, rfl⟩
  · rw [Std.ExtTreeMap.getD_empty]
    rfl
  · simp at htaken

/-- A recorded build is only observed. -/
theorem IsRecorded.onlyObserved {α : Type} {build : Build α} {entities : List Entity}
    {post : α → Prop} (h : build.IsRecorded [] entities post)
    (hnumbered : entities.map Entity.id = List.range' Register.firstId entities.length) :
    build.OnlyObserved entities := by
  obtain ⟨result, ledger, hsound, hprefix, -, hruns⟩ := h [] ⟨by simp, by simp⟩
  rw [List.nil_append] at hprefix
  obtain ⟨rest, hrest⟩ := hprefix
  have hstart (level : Level) (filters : List Filter) :
      (build.start (.ofLevel level filters)).1 = result ∧
        (build.start (.ofLevel level filters)).2.events =
          ledger.events.filter (watchOf level filters entities).hears := by
    obtain ⟨final, hrun, hfinal⟩ := hruns level filters _ (records_ofLevel level filters)
    unfold start
    rw [hrun]
    refine ⟨rfl, hfinal.events.trans (List.filter_congr fun event hmem => ?_)⟩
    unfold Watch.hears watchOf
    rw [← hrest, levelAmong_append (hsound.sources event hmem)]
  have hfull : (build.start (.ofLevel .trace [])).2.events = ledger.events := by
    rw [(hstart .trace []).2]
    exact List.filter_eq_self.mpr fun event _ => hears_watchOf_trace entities event
  refine ⟨hnumbered, fun level filters => ?_, fun level filters => ?_⟩
  · rw [(hstart level filters).1, (hstart .trace []).1]
  · rw [hfull]
    refine ⟨(hstart level filters).2, fun event hmem => ?_⟩
    rw [← hrest, List.map_append]
    exact List.mem_append_left _ (hsound.sources event hmem)

end Build

end CoreArray
