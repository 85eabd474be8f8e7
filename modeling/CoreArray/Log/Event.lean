set_option autoImplicit false

/-!
# Levels and events (SPEC §10.2)

What happens in a simulation is told by events.  An event has a source, the
number of the entity that it concerns.  Whether it is told is asked before it is made,
with its source and a level; each kind of event asks with a level of its own, and
`Event.level` says which level an event should have been asked with.
-/

namespace CoreArray

/-- How important an event is, the most important level first. -/
inductive Level where
  | error
  | warn
  | info
  | debug
  | trace
  deriving DecidableEq, Repr, Inhabited

namespace Level

/-- All levels. -/
def all : List Level := [error, warn, info, debug, trace]

/-- The place of a level in the order of importance. -/
def rank : Level → Nat
  | error => 1
  | warn => 2
  | info => 3
  | debug => 4
  | trace => 5

/-- Whether events of a level are told up to another level. -/
def within (level limit : Level) : Bool := level.rank ≤ limit.rank

/-- The name of a level. -/
def text : Level → String
  | error => "ERROR"
  | warn => "WARN"
  | info => "INFO"
  | debug => "DEBUG"
  | trace => "TRACE"

/-- The level of a name in any case. -/
def ofText? (name : String) : Option Level :=
  all.find? fun level => level.text == String.ofList (name.toList.map Char.toUpper)

end Level

/-- The number of an entity. -/
abbrev EntityId : Type := Nat

/-- What a track does with an instruction. -/
inductive Activity where
  | issue
  | retire
  | stall
  deriving DecidableEq, Repr, Inhabited

/-- The word for an activity. -/
def Activity.text : Activity → String
  | issue => "issue"
  | retire => "retire"
  | stall => "stall"

/-- An event. -/
inductive Event where
  /-- A track does something with the instruction that the text shows. -/
  | activity (source : EntityId) (what : Activity) (track : Nat) (text : String)
  /-- The clock moves to a cycle. -/
  | clock (source : EntityId) (cycle : Nat)
  /-- A message, in the parts that it is put together from. -/
  | message (source : EntityId) (level : Level) (parts : List String)
  deriving DecidableEq, Repr, Inhabited

namespace Event

/-- The entity that an event concerns. -/
def source : Event → EntityId
  | activity source _ _ _ => source
  | clock source _ => source
  | message source _ _ => source

/-- The level of an event. -/
def level : Event → Level
  | activity _ .issue _ _ => .debug
  | activity _ .retire _ _ => .debug
  | activity _ .stall _ _ => .trace
  | clock _ _ => .trace
  | message _ level _ => level

/-- The parts that the line of an event is put together from: its words, and the
values between them. -/
def parts : Event → List String
  | activity source what track text =>
      [toString source, ": " ++ what.text ++ " t", toString track, " ", text]
  | clock source cycle => [toString source, ": set cycle to ", toString cycle]
  | message source level parts => toString source :: ":" :: level.text :: ": " :: parts

/-- An event as a line of a log. -/
def line (event : Event) : String := String.join event.parts

end Event

/-- Events as the text of a log: a line for each. -/
def logText (events : List Event) : String :=
  String.join (events.map fun event => event.line ++ "\n")

/-- Which entities are told about up to which level. -/
abbrev Watch : Type := EntityId → Level → Bool

namespace Watch

/-- Nothing is told. -/
def silent : Watch := fun _ _ => false

/-- Everything is told. -/
def everything : Watch := fun _ _ => true

/-- The event that an instruction is taken up by its unit, if it is told. -/
@[macro_inline]
def issue (watch : Watch) (source : EntityId) (track : Nat) (text : String) : List Event :=
  if watch source .debug then [.activity source .issue track text] else []

/-- The event that an instruction leaves its track, if it is told. -/
@[macro_inline]
def retire (watch : Watch) (source : EntityId) (track : Nat) (text : String) : List Event :=
  if watch source .debug then [.activity source .retire track text] else []

/-- The event that an instruction has to be tried again, if it is told. -/
@[macro_inline]
def stall (watch : Watch) (source : EntityId) (track : Nat) (text : String) : List Event :=
  if watch source .trace then [.activity source .stall track text] else []

/-- The event that the clock moves, if it is told. -/
@[macro_inline]
def setCycle (watch : Watch) (source : EntityId) (cycle : Nat) : List Event :=
  if watch source .trace then [.clock source cycle] else []

/-- The message that is put together from parts, if it is told. -/
@[macro_inline]
def sayAll (watch : Watch) (source : EntityId) (level : Level) (parts : List String) :
    List Event :=
  if watch source level then [.message source level parts] else []

/-- The message, if it is told. -/
@[macro_inline]
def say (watch : Watch) (source : EntityId) (level : Level) (text : String) : List Event :=
  watch.sayAll source level [text]

end Watch

end CoreArray
