/-
ProxyClient/Disk/Basic.lean

A disk: names for directories and files, and the contents of the files.  A
file that is open goes on to exist when its name is removed, so names lead
to numbered files, and these are never given up.

A path is walked name by name from the directory in which the program works,
or from the root.  `.` stays and `..` goes up, so that what stands in front
of them has to be a directory that exists.  Above the working directory
there are directories of which only that is known.
-/
import ProxyClient.Error
import ProxyClient.Bytes
import ProxyClient.Text.Split

namespace ProxyClient

/-- The number of a file. -/
abbrev FileId := Nat

/-- What a name stands for. -/
inductive DiskEntry where
  /-- A directory. -/
  | directory
  /-- A file. -/
  | file (id : FileId)
  deriving DecidableEq, Repr

/-- A place on a disk: the names that lead to it from the working directory.
Only in front there may be names that lead up, or a slash for the root. -/
abbrev DiskPlace := List String

/-- A disk. -/
structure Disk where
  /-- What stands at each place. -/
  entries : List (DiskPlace × DiskEntry) := []
  /-- The contents of the files, by number. -/
  contents : List Bytes := []
  deriving DecidableEq, Repr, Inhabited

namespace Disk

/-! ### Paths -/

/-- The parts of a path between slashes; empty parts mean nothing. -/
def segments (path : String) : List String :=
  ((Text.splitAll '/' path.toList).filter (!·.isEmpty)).map String.ofList

/-- The names of a path, from the top. -/
def names (path : String) : List String :=
  (segments path).filter (· ≠ ".")

/-- A path begins at the root of the file system. -/
def isAbsolute (path : String) : Bool :=
  path.toList.head? = some '/'

/-- Two texts are the same path: they have the same parts, a point counting
only as the first. -/
def samePath (a b : String) : Bool :=
  let parts (path : String) : Bool × Bool × List String :=
    (isAbsolute path, !isAbsolute path && (segments path).head? == some ".", names path)
  parts a == parts b

/-! ### Places -/

/-- The place above a place.  The root is above itself. -/
def above (place : DiskPlace) : DiskPlace :=
  match place.getLast? with
  | some "/" => place
  | some ".." | none => place ++ [".."]
  | some _ => place.dropLast

/-- The number of bytes that a name may have. -/
def nameLimit : Nat := 255

/-- The number of bytes that a path may have. -/
def pathLimit : Nat := 4095

/-- What stands at a place under a name. -/
def entryAt (disk : Disk) (place : DiskPlace) (name : String) : Except IoError (Option DiskEntry) :=
  if nameLimit < name.utf8ByteSize then .error .nameTooLong
  else .ok (disk.entries.lookup (place ++ [name]))

/-- Goes from a directory by a name to a directory. -/
def enter (disk : Disk) (place : DiskPlace) (name : String) : Except IoError DiskPlace :=
  if name = "." then .ok place
  else if name = ".." then .ok (above place)
  else
    match disk.entryAt place name with
    | .error e => .error e
    | .ok none => .error .notFound
    | .ok (some (.file _)) => .error .notDirectory
    | .ok (some .directory) => .ok (place ++ [name])

/-- Where a path leads. -/
inductive Destination where
  /-- To a directory, whatever the disk holds. -/
  | directory
  /-- To a name in a directory.  With a slash behind it the name is meant to be
  that of a directory. -/
  | named (place : DiskPlace) (name : String) (slash : Bool)
  deriving DecidableEq, Repr

/-- Walks a path up to its last name. -/
def walk (disk : Disk) (path : String) : Except IoError Destination :=
  if Char.ofNat 0 ∈ path.toList then .error .zeroInName
  else if path.isEmpty then .error .notFound
  else if pathLimit < path.utf8ByteSize then .error .nameTooLong
  else
    match (segments path).getLast? with
    | none => .ok .directory
    | some last =>
      let start := if isAbsolute path then ["/"] else []
      match (segments path).dropLast.foldlM disk.enter start with
      | .error e => .error e
      | .ok place =>
        .ok (if last = "." ∨ last = ".." then .directory
          else .named place last (path.toList.getLast? = some '/'))

/-! ### Looking up -/

/-- The file at a path, with its place. -/
def find (disk : Disk) (path : String) : Except IoError (DiskPlace × FileId) :=
  match disk.walk path with
  | .error e => .error e
  | .ok .directory => .error .isDirectory
  | .ok (.named place name slash) =>
    match disk.entryAt place name with
    | .error e => .error e
    | .ok none => .error .notFound
    | .ok (some .directory) => .error .isDirectory
    | .ok (some (.file id)) => if slash then .error .notDirectory else .ok (place ++ [name], id)

/-- The file at a path. -/
def openFile (disk : Disk) (path : String) : Except IoError FileId :=
  (disk.find path).map Prod.snd

/-! ### Contents -/

/-- The bytes of a file. -/
def bytesOf (disk : Disk) (id : FileId) : Bytes :=
  disk.contents[id]?.getD []

/-- Gives a file new bytes. -/
def setBytes (disk : Disk) (id : FileId) (bytes : Bytes) : Disk :=
  { disk with contents := disk.contents.set id bytes }

/-- The bytes with `new` written over them from `position` on; a gap is
filled with zeros. -/
def overwrite (old : Bytes) (position : Nat) (new : Bytes) : Bytes :=
  if new.isEmpty then old
  else
    let front := old.take position
    front ++ List.replicate (position - front.length) 0 ++ new ++ old.drop (position + new.length)

/-- Writes into a file. -/
def writeAt (disk : Disk) (id : FileId) (position : Nat) (new : Bytes) : Disk :=
  disk.setBytes id (overwrite (disk.bytesOf id) position new)

/-- Cuts a file, or fills it up with zeros. -/
def setLength (disk : Disk) (id : FileId) (length : Nat) : Disk :=
  let old := disk.bytesOf id
  disk.setBytes id (old.take length ++ List.replicate (length - old.length) 0)

/-! ### Names -/

/-- The file at a path, which is created empty if there is none. -/
def createFile (disk : Disk) (path : String) : Except IoError (FileId × Disk) :=
  match disk.walk path with
  | .error e => .error e
  | .ok .directory => .error .isDirectory
  | .ok (.named _ _ true) => .error .isDirectory
  | .ok (.named place name false) =>
    match disk.entryAt place name with
    | .error e => .error e
    | .ok (some .directory) => .error .isDirectory
    | .ok (some (.file id)) => .ok (id, disk)
    | .ok none =>
      let id := disk.contents.length
      .ok (id, {
        entries := disk.entries ++ [(place ++ [name], .file id)]
        contents := disk.contents ++ [[]] })

/-- Creates a directory, if the path is free. -/
def createDirectory (disk : Disk) (path : String) : Disk :=
  match disk.walk path with
  | .ok (.named place name _) =>
    match disk.entryAt place name with
    | .ok none => { disk with entries := disk.entries ++ [(place ++ [name], .directory)] }
    | _ => disk
  | _ => disk

/-- Removes the name of a file. -/
def removeFile (disk : Disk) (path : String) : Except IoError Disk :=
  (disk.find path).map fun (place, _) =>
    { disk with entries := disk.entries.filter fun entry => entry.1 != place }

/-- Makes the bytes at a path exactly `bytes`. -/
def putFile (disk : Disk) (path : String) (bytes : Bytes) : Except IoError Disk :=
  match disk.createFile path with
  | .error e => .error e
  | .ok (id, disk) => .ok (disk.setBytes id bytes)

/-- Appends bytes to the file at a path. -/
def appendFile (disk : Disk) (path : String) (bytes : Bytes) : Except IoError Disk :=
  match disk.createFile path with
  | .error e => .error e
  | .ok (id, disk) => .ok (disk.setBytes id (disk.bytesOf id ++ bytes))

/-- Cuts bytes off the end of the file at a path. -/
def chopFile (disk : Disk) (path : String) (count : Nat) : Except IoError Disk :=
  match disk.openFile path with
  | .error e => .error e
  | .ok id => .ok (disk.setLength id ((disk.bytesOf id).length - count))

/-- The names at the top of the disk, with the bytes of the files. -/
def listing (disk : Disk) : List (String × Option Bytes) :=
  disk.entries.filterMap fun
    | ([name], .directory) => some (name, none)
    | ([name], .file id) => some (name, some (disk.bytesOf id))
    | _ => none

end Disk

end ProxyClient
