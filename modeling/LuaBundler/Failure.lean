/-
# Failures

A failure is told in layers: each layer that gives up says what it was doing, the
outermost one first, and at the bottom there may be a cause from outside of the
program.
-/

import LuaBundler.Disk.Fault

namespace LuaBundler

/-- A cause that the program does not describe in its own words. -/
inductive Cause
  /-- The system refused an operation. -/
  | system (fault : Disk.Fault)
  /-- A settings document is malformed or sets something that is no setting. -/
  | document
  /-- A path does not begin with the directory it should lie in. -/
  | elsewhere
  deriving DecidableEq, Repr

/-- What the layers of the program say about an error. -/
structure Failure where
  layers : List String
  cause : Option Cause := none
  deriving DecidableEq, Repr

namespace Failure

/-- What the outermost layer says. -/
def summary (f : Failure) : String := f.layers.head?.getD ""

/-- What all layers say. -/
def message (f : Failure) : String := ": ".intercalate f.layers

/-- What all layers and the system say. -/
def trace (f : Failure) : String :=
  match f.cause with
  | some (.system fault) => ": ".intercalate (f.layers ++ [fault.message])
  | _ => f.message

/-- The failure told by one more layer. -/
def within (layer : String) (f : Failure) : Failure := { f with layers := layer :: f.layers }

end Failure
end LuaBundler
