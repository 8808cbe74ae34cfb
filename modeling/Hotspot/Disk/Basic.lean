import Hotspot.Disk.Path

namespace Hotspot

/-! The files that a store lives on. Each place names nothing, a regular file
with its bytes, or a directory, and a path is followed from directory to
directory. -/

inductive Entry where
  | file (bytes : List UInt8)
  | directory
deriving DecidableEq

structure Disk where
  entries : List (Place × Entry) := []

/-- What befalls a write that would otherwise succeed: the file cannot be opened
and stays as it is, or it is emptied and takes no more than some first bytes. -/
inductive WriteFault where
  | denied
  | cut (count : Nat)
deriving DecidableEq

/-- A step on files: its result, and the files afterwards in either case. -/
abbrev DiskStep (result : Type) := Except PathError result × Disk

namespace Disk

def at? (disk : Disk) (place : Place) : Option Entry :=
  if place.names = [] then some .directory else disk.entries.lookup place

def put (disk : Disk) (place : Place) (entry : Entry) : Disk where
  entries := (place, entry) :: disk.entries.filter (·.1 ≠ place)

/-- Follow the parts of a path from a place. Every place on the way has to be a
directory, but the last one need not exist. -/
def follow (disk : Disk) (place : Place) : List String → Except PathError Place
  | [] => .ok place
  | part :: rest =>
    match disk.at? place with
    | none => .error .missing
    | some (.file _) => .error .notDirectory
    | some .directory =>
      if part = Path.climb then disk.follow place.up rest
      else if part.utf8ByteSize ≤ Path.maxNameSize then disk.follow (place.child part) rest
      else .error .tooLong

def locate (disk : Disk) (path : Path) : Except PathError Place :=
  if path.hasNull then .error .nullCharacter
  else if path.size ≤ Path.maxSize then disk.follow (.start path) path.parts
  else .error .tooLong

def find (disk : Disk) (path : Path) : Except PathError Entry :=
  match disk.locate path with
  | .ok place =>
    match disk.at? place with
    | some entry => .ok entry
    | none => .error .missing
  | .error error => .error error

def named? (disk : Disk) (path : Path) : Option Entry :=
  (disk.find path).toOption

/-- Whether the path names anything, which cannot be told of one that is too
long. -/
def holds (disk : Disk) (path : Path) : Except PathError Bool :=
  match disk.find path with
  | .ok _ => .ok true
  | .error .tooLong => .error .tooLong
  | .error _ => .ok false

def addDirectory (disk : Disk) (path : Path) : Except PathError Disk :=
  match disk.locate path with
  | .ok place =>
    match disk.at? place with
    | none => .ok (disk.put place .directory)
    | some .directory => .ok disk
    | some (.file _) => .error .occupied
  | .error error => .error error

def addDirectories (disk : Disk) : List Path → DiskStep Unit
  | [] => (.ok (), disk)
  | path :: rest =>
    match disk.addDirectory path with
    | .ok disk => disk.addDirectories rest
    | .error error => (.error error, disk)

/-- Make the path a directory, with every directory on the way to it. Nothing
is made for a path that cannot be used at all. -/
def makeDirectory (disk : Disk) (path : Path) : DiskStep Unit :=
  match disk.find path with
  | .ok .directory => (.ok (), disk)
  | .ok (.file _) => (.error .occupied, disk)
  | .error .missing => disk.addDirectories path.ancestry
  | .error error => (.error error, disk)

/-- Write a file. A fault that befalls the write may leave a part of the bytes
behind. -/
def write (disk : Disk) (path : Path) (bytes : List UInt8) (fault : Option WriteFault := none) :
    DiskStep Unit :=
  match disk.locate path with
  | .ok place =>
    if disk.at? place = some .directory then (.error .isDirectory, disk)
    else
      match fault with
      | none => (.ok (), disk.put place (.file bytes))
      | some .denied => (.error .denied, disk)
      | some (.cut count) => (.error .full, disk.put place (.file (bytes.take count)))
  | .error error => (.error error, disk)

def removeFile (disk : Disk) (path : Path) : Disk :=
  match disk.locate path with
  | .ok place => ⟨disk.entries.filter (·.1 ≠ place)⟩
  | .error _ => disk

def removeTree (disk : Disk) (path : Path) : Disk :=
  match disk.locate path with
  | .ok place => ⟨disk.entries.filter fun entry => !entry.1.isWithin place⟩
  | .error _ => disk

end Disk

end Hotspot
