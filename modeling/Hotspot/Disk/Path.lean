namespace Hotspot

/-! Paths as they are spelled, and the places that they lead to. Two paths may
lead to one place, since a path may climb to the directory above. -/

/-- A path as its parts. It begins in the directory that everything happens
in, or, with slashes at its front, in the directory above all others. -/
structure Path where
  anchor : String := ""
  parts : List String
deriving DecidableEq, Repr

namespace Path

def climb : String := ".."

/-- The anchor of a path with so many slashes at its front. Two are kept
apart, and more count as one. -/
def anchorOf (slashes : Nat) : String :=
  if slashes = 0 then "" else if slashes = 2 then "//" else "/"

def ofText (text : String) : Path where
  anchor := anchorOf (text.toList.takeWhile (· = '/')).length
  parts :=
    ((text.toList.splitOn '/').map String.ofList).filter fun part => part ≠ "" && part ≠ "."

def text (path : Path) : String :=
  if path.anchor = "" && path.parts.isEmpty then "."
  else path.anchor ++ "/".intercalate path.parts

def parent (path : Path) : Path :=
  { path with parts := path.parts.dropLast }

def withName? (path : Path) (name : String) : Option Path :=
  if path.parts.isEmpty then none
  else some { path with parts := path.parts.dropLast ++ [name] }

def ancestry (path : Path) : List Path :=
  (List.range path.parts.length).map fun index =>
    { path with parts := path.parts.take (index + 1) }

/-- How many bytes the path takes, with a slash behind each part. -/
def size (path : Path) : Nat :=
  path.parts.foldl (fun size part => size + part.utf8ByteSize + 1) path.anchor.utf8ByteSize

def hasNull (path : Path) : Bool :=
  path.parts.any fun part => part.toList.contains '\x00'

def maxSize : Nat := 4096

def maxNameSize : Nat := 255

example : (ofText "a//./b").parts = ["a", "b"] ∧ (ofText "a//./b").text = "a/b" := by
  decide +kernel

example : (ofText "///").text = "/" ∧ (ofText "").text = "." := by decide +kernel

end Path

inductive PathError where
  | nullCharacter
  | tooLong
  | missing
  | notDirectory
  | occupied
  | isDirectory
  | denied
  | full
deriving DecidableEq

def PathError.message? : PathError → Option String
  | .nullCharacter => some "embedded null byte"
  | _ => none

/-- A directory that places are counted from. -/
inductive Base where
  | above (levels : Nat)
  | top
deriving DecidableEq

/-- The directory in which the directory lies; the one above all others lies in
itself. -/
def Base.up : Base → Base
  | .above levels => .above (levels + 1)
  | .top => .top

structure Place where
  base : Base
  names : List String := []
deriving DecidableEq

namespace Place

def start (path : Path) : Place where
  base := if path.anchor = "" then .above 0 else .top

def child (place : Place) (name : String) : Place :=
  { place with names := place.names ++ [name] }

def up (place : Place) : Place :=
  if place.names = [] then { base := place.base.up }
  else { place with names := place.names.dropLast }

def isWithin (place other : Place) : Bool :=
  place.base = other.base && other.names.isPrefixOf place.names

end Place

end Hotspot
