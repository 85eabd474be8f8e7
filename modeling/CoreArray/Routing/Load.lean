import CoreArray.Routing.Board
import CoreArray.Files.Tree
import CoreArray.Log.Event
set_option autoImplicit false

/-!
# Loading routing boards (SPEC §4.2, §10.10)

A routing board is loaded from a file.  A file that does not exist is no fault:
the board is empty then, which is told as a warning.
-/

namespace CoreArray.RoutingBoard

/-- Why a board cannot be loaded. -/
inductive LoadFault where
  | unreadable (fault : FileFault)
  | malformed (fault : Fault)
  deriving DecidableEq, Repr, Inhabited

/-- The report of a board that cannot be loaded from a path. -/
def LoadFault.message (path : String) : LoadFault → String
  | unreadable fault => s!"Unable to read routing board {path}: {fault.message}"
  | malformed fault => fault.message

/-- A loaded board, and whether there was a file for it. -/
structure Loaded where
  board : RoutingBoard
  isMissing : Bool
  deriving DecidableEq, Inhabited

/-- Load a board. -/
def load (read : TextReader) (path : String) : Except LoadFault Loaded :=
  match read path with
  | .error .notFound => .ok ⟨empty, true⟩
  | .error fault => .error (.unreadable fault)
  | .ok text =>
      match RoutingBoard.read text with
      | .error fault => .error (.malformed fault)
      | .ok board => .ok ⟨board, false⟩

/-- What is told of a loaded board. -/
def Loaded.events (watch : Watch) (source : EntityId) (path : String) (loaded : Loaded) :
    List Event :=
  if loaded.isMissing then
    watch.sayAll source .warn
      ["Routing board ", path, " does not exist, the routing board is empty"]
  else
    watch.sayAll source .info
      ["Loaded ", toString loaded.board.size, " routing trees from ", path]

end CoreArray.RoutingBoard
