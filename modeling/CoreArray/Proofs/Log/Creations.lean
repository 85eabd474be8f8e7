import CoreArray.Proofs.Log.Recording
set_option autoImplicit false

/-!
# Creations (SPEC §10.2)

Entities are made one after the other, each as a topmost one or as a part of one that was
made before.  `Creations` are the ways to do so, and `carryOut` makes the entities with a
tracker.

A tracker keeps levels by number, and of these only the ones that differ from the default.
`first_filter_decides` says that nothing of this is seen: no creation is refused, and what
is told of an entity follows from its full name alone, by the first filter that covers it.
-/

namespace CoreArray

/-! ## Names -/

namespace Entity

theorem path_ne_nil (entity : Entity) : entity.path ≠ [] := by
  cases entity <;> simp [path]

/-- The full name is made of the names on the way. -/
theorem fullName_eq_intercalate (entity : Entity) :
    entity.fullName = "::".intercalate entity.path := by
  induction entity with
  | top id name => exact String.intercalate_singleton.symm
  | child parent id name ih =>
      unfold fullName path
      rw [String.intercalate_append_of_ne_nil parent.path_ne_nil (List.cons_ne_nil name []), ← ih,
        String.intercalate_singleton]

/-- An entity is shown by its full name. -/
theorem text_eq_fullName (entity : Entity) : entity.text = entity.fullName := by
  unfold text
  induction entity with
  | top id name => simp [parts, fullName]
  | child parent id name ih =>
      unfold parts fullName
      rw [String.join_append, ih]
      simp [String.append_assoc]

end Entity

/-! ## Levels by name -/

/-- Whether a filter is the first of some that covers a name. -/
structure Filter.IsFirst (filter : Filter) (filters : List Filter) (name : String) : Prop where
  covers : filter.covers name = true
  first : ∃ before after, filters = before ++ filter :: after ∧
    ∀ other ∈ before, other.covers name = false

/-- Whether a level is the one for a name: that of the first filter which covers the name,
or the default if none does. -/
inductive IsLevelFor (defaultLevel : Level) (filters : List Filter) (name : String) :
    Level → Prop where
  | ofFirst {filter : Filter} (h : filter.IsFirst filters name) :
      IsLevelFor defaultLevel filters name filter.level
  | ofNone (h : ∀ filter ∈ filters, filter.covers name = false) :
      IsLevelFor defaultLevel filters name defaultLevel

theorem Filter.isFirst_iff {filter : Filter} {filters : List Filter} {name : String} :
    filter.IsFirst filters name ↔
      filters.find? (fun other => other.covers name) = some filter := by
  rw [List.find?_eq_some_iff_append]
  constructor
  · rintro ⟨hcovers, before, after, hsplit, hbefore⟩
    exact ⟨hcovers, before, after, hsplit, by simpa using hbefore⟩
  · rintro ⟨hcovers, before, after, hsplit, hbefore⟩
    exact ⟨hcovers, before, after, hsplit, by simpa using hbefore⟩

/-- Each name has just one level, and a register finds it. -/
theorem isLevelFor_iff {defaultLevel level : Level} {filters : List Filter} {name : String} :
    IsLevelFor defaultLevel filters name level ↔
      (Register.empty defaultLevel filters).levelFor name = level := by
  unfold Register.levelFor Register.empty
  dsimp only
  constructor
  · rintro (hfirst | hnone)
    · rw [Filter.isFirst_iff.mp hfirst]
    · rw [List.find?_eq_none.mpr (by simpa using hnone)]
  · rintro rfl
    split
    · next hfind => exact .ofFirst (Filter.isFirst_iff.mpr hfind)
    · next hfind => exact .ofNone (by simpa using hfind)

/-! ## Entered entities -/

theorem Ledger.IsSound.eq_of_id_eq {ledger : Ledger} (h : ledger.IsSound) {place other : Nat}
    {entity next : Entity} (hentity : ledger.made[place]? = some entity)
    (hnext : ledger.made[other]? = some next) (hid : entity.id = next.id) : place = other := by
  rw [h.numbered place entity hentity, h.numbered other next hnext] at hid
  exact Nat.add_left_cancel hid

/-- The level for the name of an entity is found under its number. -/
theorem Ledger.IsSound.levelAmong_id {ledger : Ledger} (h : ledger.IsSound) {level : Level}
    {filters : List Filter} {entity : Entity} (hmem : entity ∈ ledger.made) :
    levelAmong level filters ledger.made entity.id =
      (Register.empty level filters).levelFor entity.fullName := by
  unfold levelAmong
  cases hfind : ledger.made.find? fun other => other.id == entity.id with
  | none =>
      have hnone := List.find?_eq_none.mp hfind entity hmem
      simp at hnone
  | some found =>
      -- What has the number of the entity stands in its place, and so is the entity.
      obtain ⟨place, hplace⟩ := List.mem_iff_getElem?.mp (List.mem_of_find?_eq_some hfind)
      obtain ⟨other, hother⟩ := List.mem_iff_getElem?.mp hmem
      have hid : found.id = entity.id := eq_of_beq (List.find?_some hfind :)
      obtain rfl := h.eq_of_id_eq hplace hother hid
      obtain rfl := Option.some.inj (hplace.symm.trans hother)
      rfl

/-- Whether a tracker of a default level and filters has numbered and entered some entities
in their order, and nothing else. -/
structure Tracker.HasEntered (level : Level) (filters : List Filter) (made : List Entity)
    (tracker : Tracker) : Prop where
  sound : Ledger.IsSound ⟨made, []⟩
  records : Journal.Records level filters ⟨made, []⟩ ⟨tracker, []⟩

namespace Tracker.HasEntered

variable {level : Level} {filters : List Filter} {made : List Entity} {tracker : Tracker}

theorem ofLevel : (Tracker.ofLevel level filters).HasEntered level filters [] :=
  ⟨⟨by simp, by simp⟩, Build.records_ofLevel level filters⟩

/-- The next entity is not refused. -/
theorem make (h : tracker.HasEntered level filters made) {ofId : EntityId → Entity}
    (hid : ∀ id, (ofId id).id = id) :
    ∃ entity after, tracker.make ofId = (.ok entity, after) ∧
      after.HasEntered level filters (made ++ [entity]) ∧ ∃ id, entity = ofId id := by
  obtain ⟨after, hmake, hafter⟩ := h.records.make h.sound hid rfl
  exact ⟨_, after, hmake, ⟨h.sound.enter (hid _), hafter⟩, _, rfl⟩

/-- What is told of an entity is decided by the level for its full name. -/
theorem watch_iff (h : tracker.HasEntered level filters made) {entity : Entity}
    (hmem : entity ∈ made) (severity : Level) :
    tracker.watch entity.id severity = true ↔
      ∃ limit, IsLevelFor level filters entity.fullName limit ∧ severity.rank ≤ limit.rank := by
  have hwatch : tracker.watch = watchOf level filters made := h.records.watch_eq
  have hlevel : levelAmong level filters made entity.id =
      (Register.empty level filters).levelFor entity.fullName := h.sound.levelAmong_id hmem
  rw [hwatch, watchOf, hlevel, Level.within, decide_eq_true_iff]
  simp only [isLevelFor_iff, exists_eq_left']

end Tracker.HasEntered

/-! ## Creations -/

/-- A sequence of creations, each of a topmost entity or of a part of an entity that was made
before it. -/
inductive Creations : Nat → Type where
  | none : Creations 0
  | top {count : Nat} (earlier : Creations count) (name : String) : Creations (count + 1)
  | child {count : Nat} (earlier : Creations count) (parent : Fin count) (name : String) :
      Creations (count + 1)

namespace Creations

/-- The names on the way to each of the entities. -/
def paths : {count : Nat} → Creations count → Vector (List String) count
  | _, none => #v[]
  | _, top earlier name => earlier.paths.push [name]
  | _, child earlier parent name => earlier.paths.push (earlier.paths[parent] ++ [name])

/-- Make one more entity with a tracker, unless one of those before it was refused. -/
def andMake {count : Nat} (earlier : Except RepeatedEntity (Vector Entity count) × Tracker)
    (create : Vector Entity count → Tracker → Except RepeatedEntity Entity × Tracker) :
    Except RepeatedEntity (Vector Entity (count + 1)) × Tracker :=
  match earlier with
  | (.error fault, tracker) => (.error fault, tracker)
  | (.ok made, tracker) =>
      let (result, tracker) := create made tracker
      (result.map made.push, tracker)

/-- Make the entities with a tracker. -/
def carryOut : {count : Nat} → Creations count → Tracker →
    Except RepeatedEntity (Vector Entity count) × Tracker
  | _, none, tracker => (.ok #v[], tracker)
  | _, top earlier name, tracker =>
      andMake (earlier.carryOut tracker) fun _ tracker => tracker.enterTop name
  | _, child earlier parent name, tracker =>
      andMake (earlier.carryOut tracker) fun made tracker => tracker.enter made[parent] name

section Runs

variable {level : Level} {filters : List Filter} {count : Nat}

/-- Whether creations went well: the tracker has entered the entities, and the names on the
way to each are those of its path. -/
def Succeeds (level : Level) (filters : List Filter) (paths : Vector (List String) count)
    (outcome : Except RepeatedEntity (Vector Entity count) × Tracker) : Prop :=
  ∃ made tracker, outcome = (.ok made, tracker) ∧
    tracker.HasEntered level filters made.toList ∧ made.map Entity.path = paths

/-- One more entity is made after others were. -/
theorem Succeeds.andMake {paths : Vector (List String) count} {path : List String}
    {earlier : Except RepeatedEntity (Vector Entity count) × Tracker}
    (h : Succeeds level filters paths earlier) (ofId : Vector Entity count → EntityId → Entity)
    (hid : ∀ made id, (ofId made id).id = id)
    (hpath : ∀ made id, made.map Entity.path = paths → (ofId made id).path = path) :
    Succeeds level filters (paths.push path)
      (andMake earlier fun made tracker => tracker.make (ofId made)) := by
  obtain ⟨made, tracker, rfl, hentered, hpaths⟩ := h
  obtain ⟨entity, after, hmake, hafter, id, rfl⟩ := hentered.make (hid made)
  refine ⟨made.push (ofId made id), after, ?_, ?_, ?_⟩
  · unfold Creations.andMake
    dsimp only
    rw [hmake]
    rfl
  · rw [Vector.toList_push]
    exact hafter
  · rw [Vector.map_push, hpaths, hpath made id hpaths]

/-- No creation is refused, whatever was made before it. -/
theorem succeeds_carryOut (level : Level) (filters : List Filter) (creations : Creations count) :
    Succeeds level filters creations.paths (creations.carryOut (.ofLevel level filters)) := by
  induction creations with
  | none => exact ⟨#v[], _, rfl, .ofLevel, Vector.map_empty⟩
  | top earlier name ih =>
      exact ih.andMake (fun _ id => .top id name) (fun _ _ => rfl) fun _ _ _ => rfl
  | child earlier parent name ih =>
      -- The parent was made before, so its path is known by then.
      refine ih.andMake (fun made id => .child made[parent] id name) (fun _ _ => rfl) ?_
      intro made id hpaths
      unfold Entity.path
      rw [← hpaths, Fin.getElem_fin, Fin.getElem_fin, Vector.getElem_map]

end Runs

/-- Every sequence of creations succeeds.  The entities are told apart by their numbers, of
which the two lowest are not given to any; each is shown by its full name, which is made of
the names on the way to it; and what is told of it is decided by the first filter that
covers this name, or by the default level. -/
theorem first_filter_decides (level : Level) (filters : List Filter) {count : Nat}
    (creations : Creations count) :
    ∃ (made : Vector Entity count) (tracker : Tracker),
      creations.carryOut (.ofLevel level filters) = (.ok made, tracker) ∧
      (∀ i j : Fin count, made[i].id = made[j].id → i = j) ∧
      ∀ i : Fin count, 2 ≤ made[i].id ∧
        made[i].fullName = made[i].text ∧
        made[i].fullName = "::".intercalate creations.paths[i] ∧
        ∀ severity, tracker.watch made[i].id severity = true ↔
          ∃ limit, IsLevelFor level filters made[i].fullName limit ∧
            severity.rank ≤ limit.rank := by
  obtain ⟨made, tracker, hrun, hentered, hpaths⟩ := succeeds_carryOut level filters creations
  have hmade (i : Fin count) : made.toList[i.val]? = some made[i] := by simp
  refine ⟨made, tracker, hrun, fun i j hid => ?_, fun i => ⟨?_, ?_, ?_, ?_⟩⟩
  · exact Fin.ext (hentered.sound.eq_of_id_eq (hmade i) (hmade j) hid)
  · rw [hentered.sound.numbered i made[i] (hmade i)]
    exact Nat.le_add_right 2 i
  · exact made[i].text_eq_fullName.symm
  · rw [made[i].fullName_eq_intercalate, ← hpaths, Fin.getElem_fin, Fin.getElem_fin,
      Vector.getElem_map]
  · exact hentered.watch_iff (List.mem_of_getElem? (hmade i))

example : (child (top none "top") 0 "core0").paths = #v[["top"], ["top", "core0"]] := rfl

end Creations

end CoreArray
