import ChipEight.Files.Path
import ChipEight.Text.Quoted

/-!
# The working directory

The files that a command can see, as a value: a list of files and folders, each with its way from
the working directory. **A way may begin with `..`**, so there can be files above the working
directory too, up to the root, which is reached after so many steps as the directory is deep. At the
root there are the folders that every system has, and of what is in them only two devices are known:
**the null device**, which reads as an empty file and keeps nothing that is written to it, and **the
full device**, which takes nothing.

**A name is followed piece by piece, as it is written.** The first piece that cannot be followed
decides the error, so a piece behind a file fails because the file is no folder, and a piece behind
nothing because nothing is there. A single dot stays where it is and still asks for a folder, and a
slash at the end says that the name is a folder's; neither is lost here, as they are in the normal
form of a `Path`. A name with a NUL in it is not followed at all.
-/

namespace ChipEight

/-- Why a file could not be used. -/
inductive FileError where
  | notFound
  | notFolder
  | isFolder
  | noSpace
  | nameTooLong
  /-- The name has a NUL in it, and the file system is not even asked for it. -/
  | impossibleName
  deriving DecidableEq, Repr, Inhabited

namespace FileError

/-- The number that the file system gives to the error, if the error is one of its own. -/
def number? : FileError → Option Nat
  | notFound => some 2
  | notFolder => some 20
  | isFolder => some 21
  | noSpace => some 28
  | nameTooLong => some 36
  | impossibleName => none

/-- The error in words. -/
def words : FileError → String
  | notFound => "No such file or directory"
  | notFolder => "Not a directory"
  | isFolder => "Is a directory"
  | noSpace => "No space left on device"
  | nameTooLong => "File name too long"
  | impossibleName => "No name of a file"

/-- The error as the host reports it for a path. -/
def text (e : FileError) (p : Path) : String :=
  match e.number? with
  | some number => s!"[Errno {number}] {e.words}: {Quoted.quote p.text}"
  | none => e.words

end FileError

/-- What stands at a place in a directory. -/
inductive Entry where
  | file (bytes : List UInt8)
  | folder
  deriving DecidableEq, Repr, Inhabited

/-- A directory: its files and folders, each with the parts of its way, the newest first, and how
many folders it lies below the root. -/
structure Directory where
  entries : List (List String × Entry) := []
  depth : Nat := 2
  deriving Repr, Inhabited

namespace Directory

/-- Where following a name has led. -/
inductive Place where
  /-- A place by its way from the working directory, with `..` only at the beginning. -/
  | along (parts : List String)
  | root
  /-- Some folder of the root that every system has. -/
  | system
  /-- The folder of the devices. -/
  | devices
  | nullDevice
  | fullDevice
  deriving DecidableEq, Repr

/-- The folders of the root, the one of the devices apart. -/
def rootFolders : List String :=
  ["bin", "boot", "etc", "home", "lib", "media", "mnt", "opt", "proc", "root", "run", "sbin", "srv",
    "sys", "tmp", "usr", "var"]

/-- A way that does not leave the line from the working directory to the root. -/
def isAscent (parts : List String) : Bool := parts.all (· == "..")

/-- What stands at a place. The working directory and everything above it are folders. -/
def at? (d : Directory) : Place → Option Entry
  | .root => some .folder
  | .system => some .folder
  | .devices => some .folder
  | .nullDevice => some (.file [])
  | .fullDevice => some (.file [])
  | .along parts =>
    if isAscent parts then some .folder
    else (d.entries.find? fun entry ↦ entry.1 == parts).map (·.2)

/-! ### Following a name -/

/-- The longest name that a part may have, in bytes. -/
def longestPart : Nat := 255

/-- The longest name of a file with everything in front of it, in bytes. -/
def longestName : Nat := 4095

/-- The folder that a place is in. The root is in itself. -/
def parent (d : Directory) : Place → Place
  | .along parts =>
    if !isAscent parts then .along parts.dropLast
    else if parts.length + 1 < d.depth then .along (".." :: parts)
    else .root
  | .root => .root
  | .system => .root
  | .devices => .root
  | .nullDevice => .devices
  | .fullDevice => .devices

/-- The place of a name in a folder, if the folder can have one of that name. -/
def child? (part : String) : Place → Option Place
  | .along here => some (.along (here ++ [part]))
  | .root =>
    if part = "dev" then some .devices
    else if part ∈ rootFolders then some .system
    else none
  | .devices =>
    if part = "null" then some .nullDevice
    else if part = "full" then some .fullDevice
    else none
  | _ => none

/-- Follows one piece from a place, which has to be a folder. -/
def enter (d : Directory) (place : Place) (piece : String) : Except FileError Place :=
  match d.at? place with
  | none => .error .notFound
  | some (.file _) => .error .notFolder
  | some .folder =>
    if piece = "." then .ok place
    else if piece = ".." then .ok (d.parent place)
    else if longestPart < piece.utf8ByteSize then .error .nameTooLong
    else match child? piece place with
      | some found => .ok found
      | none => .error .notFound

/-- Follows a run of pieces. Only the last may lead to a place where nothing stands. -/
def follow (d : Directory) (place : Place) : List String → Except FileError Place
  | [] => .ok place
  | piece :: rest => do d.follow (← d.enter place piece) rest

/-- Some character of the name is none that a file's name can have. -/
def hasNul (name : String) : Bool := name.toList.contains '\x00'

/-- The name itself says that it is a folder's. -/
def endsInSlash (name : String) : Bool := name.toList.getLast? == some '/'

/-- Where following a name begins. -/
def start (name : String) : Place :=
  if name.toList.head? = some '/' then .root else .along []

/-- The folder that a name's last piece is looked for in, and that piece. A name of slashes alone
ends where it begins. -/
def approach (d : Directory) (name : String) : Except FileError (Place × String) :=
  if hasNul name then .error .impossibleName
  else if name = "" then .error .notFound
  else if longestName < name.utf8ByteSize then .error .nameTooLong
  else do
    let pieces := Path.piecesOf name.toList
    let folder ← d.follow (start name) (pieces.dropLast ++ ["."])
    .ok (folder, pieces.getLast?.getD ".")

/-- The place that a name leads to. -/
def locate (d : Directory) (name : String) : Except FileError Place := do
  let (folder, piece) ← d.approach name
  d.enter folder piece

/-! ### Operations -/

/-- The bytes of a file. -/
def read (d : Directory) (name : String) : Except FileError (List UInt8) := do
  match d.at? (← d.locate name) with
  | none => .error .notFound
  | some .folder => .error .isFolder
  | some (.file bytes) => if endsInSlash name then .error .notFolder else .ok bytes

/-- Something put at the end of a way from the working directory. -/
def put (d : Directory) (parts : List String) (entry : Entry) : Directory :=
  { d with entries := (parts, entry) :: d.entries.filter fun old ↦ old.1 != parts }

/-- Writes a file, which may be new or not. A name that ends in a slash is a folder's, **whatever
stands there**. -/
def write (d : Directory) (name : String) (bytes : List UInt8) : Except FileError Directory := do
  let (folder, piece) ← d.approach name
  if endsInSlash name then .error .isFolder
  else
    let place ← d.enter folder piece
    match d.at? place, place with
    | some .folder, _ => .error .isFolder
    | _, .along parts => .ok (d.put parts (.file bytes))
    | _, .nullDevice => .ok d
    | _, .fullDevice => if bytes = [] then .ok d else .error .noSpace
    | _, _ => .error .notFound

end Directory

end ChipEight
