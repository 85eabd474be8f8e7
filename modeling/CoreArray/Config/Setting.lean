import CoreArray.Config.Basic
set_option autoImplicit false

/-!
# Settings (SPEC §10.4)

A source of configuration gives settings: values under names.  A name that is
not a field of a configuration means nothing, but a field must have a value of
its kind.
-/

namespace CoreArray

/-- A value in a source of configuration. -/
inductive Setting where
  | flag (value : Bool)
  | integer (value : Int)
  | text (value : String)
  | list (items : List Setting)
  /-- A value of a kind that no field has: a fraction, a date or a table. -/
  | other
  deriving Repr, Inhabited

namespace Setting

/-- A setting as an unsigned number. -/
def number? : Setting → Option Nat
  | integer value => if 0 ≤ value then Text.inUnsignedRange value.toNat else none
  | _ => none

/-- A setting as a text. -/
def text? : Setting → Option String
  | text value => some value
  | _ => none

/-- A setting as a list of values of one kind. -/
def list? {α : Type} (item? : Setting → Option α) : Setting → Option (List α)
  | list items => items.mapM item?
  | _ => none

/-- A setting as a kind of delivery, in lower case. -/
def delivery? : Setting → Option Delivery
  | text value => Delivery.ofText? value
  | _ => none

end Setting

/-- Settings by name; the first of several for one name holds. -/
abbrev Settings : Type := List (String × Setting)

namespace Settings

/-- The setting of a name. -/
def get? (settings : Settings) (name : String) : Option Setting :=
  (settings.find? fun (key, _) => key == name).map Prod.snd

/-- The value of a field: none if nothing is said of it; a failure if what is
said is of another kind. -/
def field {α : Type} (settings : Settings) (name : String) (read : Setting → Option α) :
    Option (Option α) :=
  match settings.get? name with
  | none => some none
  | some setting => (read setting).map some

/-- The values that settings give to the fields of a configuration. -/
def overrides? (settings : Settings) : Option Config.Overrides := do
  let arraySize ← settings.field "array_size" Setting.number?
  let taskDir ← settings.field "task_dir" Setting.text?
  let taskFiles ← settings.field "task_files" (Setting.list? Setting.text?)
  let assignedTasks ← settings.field "assigned_tasks" (Setting.list? Setting.number?)
  let latencyFile ← settings.field "latency_file" Setting.text?
  let routingFile ← settings.field "routing_file" Setting.text?
  let threshold ← settings.field "threshold" Setting.number?
  let channelWidth ← settings.field "channel_width" Setting.number?
  let delivery ← settings.field "delivery" Setting.delivery?
  let cyclesPerHop ← settings.field "cycles_per_hop" Setting.number?
  let deadlockInterval ← settings.field "deadlock_check_interval" Setting.number?
  let maxCycles ← settings.field "max_cycles" Setting.number?
  let seed ← settings.field "seed" Setting.number?
  return {
    arraySize, taskDir, taskFiles, assignedTasks, latencyFile, routingFile, threshold
    channelWidth, delivery, cyclesPerHop, deadlockInterval, maxCycles, seed }

end Settings

end CoreArray
