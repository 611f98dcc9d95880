import ClusterRpc.Keyed
import ClusterRpc.Net.IoError
import ClusterRpc.Text.Blank
import ClusterRpc.Text.Utf8

/-! # Files and directories -/

namespace ClusterRpc

/-- A place in the directory tree: the names on the way to it. -/
abbrev Path := List String

namespace Path

/-- Takes one name of a written path: the empty name and `.` stay, `..` goes up. -/
def enter (here : Path) (name : String) : Path :=
  if name = "" ∨ name = "." then here
  else if name = ".." then here.dropLast
  else here ++ [name]

/-- The names in a written path. -/
def names (written : String) : List String :=
  (Text.splitWhere (· == '/') written.toList).map String.ofList

/-- The place that a written path names from `here`. -/
def resolve (here : Path) (written : String) : Path :=
  (names written).foldl enter (if written.toList.head? = some '/' then [] else here)

/-- The number of the error that comes of calling a new file by a written path, if its last name is
one that only a directory has. -/
def misnomer? (written : String) : Option Nat :=
  match (names written).getLast? with
  | some "" => some (if written = "" then 2 else 20)
  | some "." => some 2
  | some ".." => some 16
  | _ => none

/-- A name that none of the places has anywhere on the way: it is longer than all of theirs. -/
def unused (places : List Path) : String :=
  String.ofList ('x' :: places.flatten.flatMap String.toList)

end Path

/-- A step of replacing a file. -/
inductive ReplaceStep where
  /-- The directories on the way are made, so many of them at least. -/
  | directories (made : Nat)
  /-- A draft is made beside the file. -/
  | draft
  /-- The draft is written to and takes so many octets at least. -/
  | content (taken : Nat)
  /-- The draft is moved over the file. -/
  | move
deriving DecidableEq, Repr

/-- The files and directories of a machine. The root is always a directory. -/
structure Disk where
  /-- The working directory. -/
  here : Path
  files : List (Path × Bytes)
  directories : List Path
  /-- The step that no replacement of a file gets over, and why, if there is one. -/
  sealed : Option (ReplaceStep × IoError)
deriving DecidableEq, Repr

namespace Disk

def file? (disk : Disk) (path : Path) : Option Bytes :=
  (disk.files.find? (·.1 == path)).map Prod.snd

def isDirectory (disk : Disk) (path : Path) : Bool :=
  path.isEmpty || disk.directories.contains path

/-- The directories on the way to a place, nearest to the root first. -/
def ancestors (path : Path) : List Path := (List.range path.length).map path.take

/-- The contents of a file. -/
def read (disk : Disk) (written : String) : Except IoError Bytes :=
  let path := Path.resolve disk.here written
  if written = "" then .error (.ofErrno 2)
  else match (ancestors path).find? (!disk.isDirectory ·) with
    | some missing => .error (.ofErrno (if (disk.file? missing).isSome then 20 else 2))
    | none =>
        if disk.isDirectory path then .error (.ofErrno 21)
        else match disk.file? path with
          | some content =>
              if (Path.misnomer? written).isSome then .error (.ofErrno 20) else .ok content
          | none => .error (.ofErrno 2)

/-- Makes a place a directory, with every directory on the way. -/
def makeDirectory (disk : Disk) (path : Path) : Disk :=
  { disk with
    directories := disk.directories ++
      ((ancestors path ++ [path]).filter (!disk.isDirectory ·)) }

/-- Removes the file at a place, if there is one. -/
def remove (disk : Disk) (path : Path) : Disk :=
  { disk with files := disk.files.filter (·.1 != path) }

/-- Puts a file at a place, replacing the one there. -/
def put (disk : Disk) (path : Path) (content : Bytes) : Disk :=
  { disk.remove path with files := (path, content) :: (disk.remove path).files }

/-- Moves a file to another place, replacing the one there. -/
def move (disk : Disk) (source target : Path) : Disk :=
  match disk.file? source with
  | some content => (disk.remove source).put target content
  | none => disk

/-- Every place where there is something. -/
def places (disk : Disk) : List Path := disk.files.map Prod.fst ++ disk.directories

/-- Replaces a file as a whole: how that ends, and the disk after it. The directories on the way are
made, a draft is written beside the file, and it is moved over the file. A draft that does not get
that far is removed. -/
def replace (disk : Disk) (written : String) (content : Bytes) : Except IoError Unit × Disk :=
  let path := Path.resolve disk.here written
  let folder := path.dropLast
  let draft := folder ++ [Path.unused (path :: disk.places)]
  let furnished := disk.makeDirectory folder
  match disk.sealed with
  | some (.directories made, cause) => (.error cause, disk.makeDirectory (folder.take made))
  | some (.draft, cause) => (.error cause, furnished)
  | some (.content taken, cause) =>
      (.error cause, (furnished.put draft (content.take taken)).remove draft)
  | some (.move, cause) => (.error cause, (furnished.put draft content).remove draft)
  | none =>
      match Path.misnomer? written with
      | some n => (.error (.ofErrno n), (furnished.put draft content).remove draft)
      | none => (.ok (), (furnished.put draft content).move draft path)

end Disk

end ClusterRpc
