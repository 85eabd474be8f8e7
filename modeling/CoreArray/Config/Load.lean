import CoreArray.Config.Environment
set_option autoImplicit false

/-!
# Loading configurations (SPEC §10.4)

A configuration is put together from its defaults, a file if one is named, and
the environment, each taking precedence over those before.
-/

namespace CoreArray.Config

/-- Why a configuration cannot be loaded. -/
inductive LoadFault where
  | notFile (path : String)
  | notFound (path : String)
  | invalid
  deriving DecidableEq, Repr, Inhabited

/-- The report of a fault. -/
def LoadFault.message : LoadFault → String
  | notFile path => s!"{path} is not a file path"
  | notFound path => s!"{path} not found"
  | invalid => "invalid configuration"

/-- The settings of a configuration file. -/
def fileSettings (read : TextReader) (path : String) : Except LoadFault Settings :=
  match read path with
  | .error .isDirectory => .error (.notFile path)
  | .error .notText => .error .invalid
  | .error _ => .error (.notFound path)
  | .ok text =>
      match Toml.read text with
      | some settings => .ok settings
      | none => .error .invalid

/-- Load a configuration. -/
def load (read : TextReader) (path? : Option String) (env : Environment) :
    Except LoadFault Config := do
  let fromFile ← match path? with
    | some path => fileSettings read path
    | none => .ok []
  match Settings.overrides? (env.settings ++ fromFile) with
  | some overrides => return overrides.apply .default
  | none => .error .invalid

end CoreArray.Config
