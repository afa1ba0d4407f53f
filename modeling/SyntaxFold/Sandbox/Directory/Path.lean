import SyntaxFold.Sandbox.Directory.Fault

/-!
# Paths and places

A path is a text; a place is where a path can lead: some steps up from the working directory, and
from there down by names. A path from the root starts as many steps up as the working directory
lies below the root, so every place has one form.
-/

namespace SyntaxFold.Sandbox

/-- How many bytes a path may have. -/
def maxPathLength : Nat := 4095

/-- How many bytes a part of a path may have. -/
def maxPartLength : Nat := 255

/-- A path, told apart at its slashes. -/
structure Path where
  fromRoot : Bool
  parts : List String
  /-- Whether a slash at the end asks for a directory. -/
  asksForDirectory : Bool
  deriving DecidableEq, Repr

/-- Tells a path apart. Slashes that follow each other count as one. -/
def Path.ofText (text : String) : Path :=
  ⟨text.startsWith "/", (text.splitOn "/").filter (· ≠ ""), text.endsWith "/"⟩

/-- Where a path can lead. -/
structure Place where
  /-- The steps up from the working directory. -/
  up : Nat
  /-- The names of the steps down from there. -/
  down : List String
  deriving DecidableEq, Repr

namespace Place

/-- The working directory. -/
def here : Place := ⟨0, []⟩

/-- A place in a directory. -/
def child (place : Place) (name : String) : Place := { place with down := place.down ++ [name] }

/-- The directory that a place is in. The root, which is given by its steps up, is in itself. -/
def parent (root : Nat) (place : Place) : Place :=
  if place.down.isEmpty then ⟨min (place.up + 1) root, []⟩
  else { place with down := place.down.dropLast }

/-- Whether a place is inside another, at whatever depth. -/
def isInside (place outer : Place) : Bool :=
  place.up == outer.up && outer.down.isPrefixOf place.down &&
    outer.down.length < place.down.length

end Place

end SyntaxFold.Sandbox
