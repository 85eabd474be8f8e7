import CoreArray.Pattern.Reader
import CoreArray.Text.Quoted
import CoreArray.Log.Event
import Std.Data.ExtTreeMap
set_option autoImplicit false

/-!
# Entities and trackers (SPEC §10.2)

The parts of a simulation form a tree of entities.  A tracker numbers them as
they are made and decides for each up to which level its events are told: by the
first of a list of filters that covers the full name, or else by a default.
-/

namespace CoreArray

/-- A part of a simulation: the topmost one, or a part of another. -/
inductive Entity where
  | top (id : EntityId) (name : String)
  | child (parent : Entity) (id : EntityId) (name : String)
  deriving DecidableEq, Repr, Inhabited

namespace Entity

/-- The number of an entity. -/
def id : Entity → EntityId
  | top id _ => id
  | child _ id _ => id

/-- The name of an entity within its parent. -/
def name : Entity → String
  | top _ name => name
  | child _ _ name => name

/-- The names on the way from the topmost entity to this one. -/
def path : Entity → List String
  | top _ name => [name]
  | child parent _ name => parent.path ++ [name]

/-- The name of an entity after those of all its parents. -/
def fullName : Entity → String
  | top _ name => name
  | child parent _ name => parent.fullName ++ "::" ++ name

/-- The parts that an entity is shown in: those of its parent, and its own name. -/
def parts : Entity → List String
  | top _ name => [name]
  | child parent _ name => parent.parts ++ ["::", name]

/-- An entity as it is shown. -/
def text (entity : Entity) : String := String.join entity.parts

/-- An entity described by its own name and its number. -/
def describe (entity : Entity) : String :=
  "Entity \x7b name: " ++ Text.quoted entity.name ++ s!", id: {entity.id} \x7d"

end Entity

/-- The level for the entities whose full names a filter covers. -/
structure Filter where
  covers : String → Bool
  level : Level
  deriving Inhabited

/-- A filter whose pattern is not in the notation. -/
structure FilterFault where
  pattern : String
  deriving DecidableEq, Repr, Inhabited

/-- The report of a bad filter. -/
def FilterFault.message (fault : FilterFault) : String :=
  s!"Tracker configuration error: Failed to parse regex {fault.pattern}:"

/-- Read a filter: it covers the names in which its pattern occurs. -/
def Filter.read (pattern : String) (level : Level) : Except FilterFault Filter :=
  match Pattern.read pattern with
  | some pattern => .ok ⟨pattern.occursIn, level⟩
  | none => .error ⟨pattern⟩

/-- An entity whose number is taken. -/
structure RepeatedEntity where
  id : EntityId
  name : String
  deriving DecidableEq, Repr, Inhabited

/-- The report of a number that is taken. -/
def RepeatedEntity.message (fault : RepeatedEntity) : String :=
  s!"Entity ID {fault.id} already seen ({fault.name})"

/-- The register of entities: the next number, and the levels. -/
structure Register where
  nextId : EntityId
  defaultLevel : Level
  filters : List Filter
  /-- The levels that differ from the default. -/
  levels : Std.ExtTreeMap EntityId Level
  deriving Inhabited

namespace Register

/-- The number of the first entity; the two below it are reserved. -/
def firstId : EntityId := 2

/-- The register without entities. -/
def empty (defaultLevel : Level) (filters : List Filter) : Register :=
  ⟨firstId, defaultLevel, filters, ∅⟩

/-- The level for an entity of a full name. -/
def levelFor (register : Register) (name : String) : Level :=
  match register.filters.find? fun filter => filter.covers name with
  | some filter => filter.level
  | none => register.defaultLevel

/-- Enter an entity under a number.  Only numbers with a level of their own are
kept, so that only these can be found taken; the new level is kept even then. -/
def add (register : Register) (id : EntityId) (name : String) :
    Except RepeatedEntity Unit × Register :=
  let level := register.levelFor name
  if level = register.defaultLevel then (.ok (), register)
  else
    let result := if register.levels.contains id then .error ⟨id, name⟩ else .ok ()
    (result, { register with levels := register.levels.insert id level })

/-- Up to which level an entity is told about. -/
def levelOf (register : Register) (id : EntityId) : Level :=
  register.levels.getD id register.defaultLevel

end Register

/-- What numbers the entities and decides what is told. -/
inductive Tracker where
  /-- Tells nothing and gives every entity the reserved number zero. -/
  | silent
  /-- Tells what its register allows. -/
  | filtered (register : Register)
  /-- Tells everything. -/
  | full (nextId : EntityId)
  deriving Inhabited

namespace Tracker

/-- A tracker with a default level and filters. -/
def ofLevel (defaultLevel : Level) (filters : List Filter) : Tracker :=
  filtered (Register.empty defaultLevel filters)

/-- Take the next number. -/
def freshId : Tracker → EntityId × Tracker
  | silent => (0, silent)
  | filtered register =>
      (register.nextId, filtered { register with nextId := register.nextId + 1 })
  | full nextId => (nextId, full (nextId + 1))

/-- Enter an entity under a number. -/
def add (tracker : Tracker) (id : EntityId) (name : String) :
    Except RepeatedEntity Unit × Tracker :=
  match tracker with
  | filtered register =>
      let (result, register) := register.add id name
      (result, filtered register)
  | tracker => (.ok (), tracker)

/-- What the tracker tells. -/
def watch : Tracker → Watch
  | silent => Watch.silent
  | filtered register => fun id level => level.within (register.levelOf id)
  | full _ => Watch.everything

/-- What comes of an event that is handed over without asking whether it is to be
told. -/
def write (tracker : Tracker) (event : Event) : List Event :=
  match tracker with
  | silent => []
  | _ => [event]

/-- Number and enter an entity that is made from its number. -/
def make (tracker : Tracker) (ofId : EntityId → Entity) :
    Except RepeatedEntity Entity × Tracker :=
  let (id, tracker) := tracker.freshId
  let entity := ofId id
  match tracker.add id entity.fullName with
  | (.ok (), tracker) => (.ok entity, tracker)
  | (.error fault, tracker) => (.error fault, tracker)

/-- Make the topmost entity. -/
def enterTop (tracker : Tracker) (name : String) : Except RepeatedEntity Entity × Tracker :=
  tracker.make fun id => .top id name

/-- Make a part of an entity. -/
def enter (tracker : Tracker) (parent : Entity) (name : String) :
    Except RepeatedEntity Entity × Tracker :=
  tracker.make fun id => .child parent id name

end Tracker

end CoreArray
