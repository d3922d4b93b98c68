import Cosmac.Failure

/-!
# Cosmac — files

The files that a program run can see, as a value: where the run works, what lies at which place, and
what the system will not let it do there. A path is walked name by name; whether the names on the
way are there, are directories, and may be gone through, is known before anything is asked about the
last one.

* `Path.parse` takes a path apart.

* `FileTree.find` opens what is there, and `FileTree.read` reads it; `FileTree.write` makes a file
  or replaces one.

Each of them answers with the error that the system would report, in the order in which the system
looks: what is wrong on the way comes before what is wrong at the end.
-/

namespace Cosmac

/-! ## Paths

A path is names, with a slash in front of the first one or not, and behind the last one or not. Its
length is checked before anything is looked up. -/

/-- A path, taken apart. -/
structure Path where
  /-- Whether it starts at the root, rather than in the working directory. -/
  absolute : Bool
  /-- What stands between the slashes, `.` and `..` included. -/
  names : List String
  /-- Whether a slash stands at the end, so that only a directory can be meant. -/
  slashAtEnd : Bool
  deriving Repr, DecidableEq

namespace Path

/-- How many bytes a path may take. -/
def maxBytes : Nat := 4095

/-- How many bytes a name may take. -/
def maxNameBytes : Nat := 255

/-- The parts of a path. Slashes next to each other count as one. -/
def parse (text : String) : Except FileError Path :=
  if maxBytes < text.utf8ByteSize then .error .nameTooLong
  else if text.isEmpty then .error .notFound
  else .ok {
    absolute := text.toList.head? = some '/'
    names := (text.splitOn "/").filter (· ≠ "")
    slashAtEnd := text.toList.getLast? = some '/' }

end Path

/-- Where something lies: the names on the way there from the root. -/
abbrev Place := List String

/-- One name on. Nothing lies above the root. -/
def Place.step (place : Place) (name : String) : Place :=
  if name = "." then place
  else if name = ".." then place.dropLast
  else place ++ [name]

/-- Where a path starts, for someone who works in `directory`. -/
def Path.start (p : Path) (directory : Place) : Place :=
  if p.absolute then [] else directory

/-- The places that a path leads through, from where it starts to where it ends. -/
def Path.places (p : Path) (directory : Place) : List Place :=
  (List.range (p.names.length + 1)).map fun n =>
    (p.names.take n).foldl Place.step (p.start directory)

/-! ## Trees

What the system refuses is a table of its own, so that a place can have a file which nobody may
open, or one which nobody may replace. -/

inductive Node
  | file (bytes : List UInt8)
  | directory
  /-- Takes whatever is written and has nothing to be read. -/
  | nullDevice
  deriving Repr, DecidableEq

/-- What a run can be kept from doing at a place. -/
inductive Access
  /-- To look anything up in a directory. -/
  | toEnter
  /-- To open what lies there, so that it can be read. -/
  | toOpen
  /-- To read it when it is open. -/
  | toRead
  /-- To make a file there, or to replace the one that is there. -/
  | toWrite
  deriving Repr, DecidableEq

/-- What lies where, and what is refused. -/
structure FileTree where
  /-- Where the run works. The working directory and those above it are always there. -/
  directory : Place
  nodes : List (Place × Node)
  /-- What the system refuses, and what it says then: whose file it is, or that a disk is full or
  broken. It refuses this every time. -/
  refusals : List ((Access × Place) × FileError)
  deriving Repr, DecidableEq

namespace FileTree

/-- What lies at a place. -/
def node? (t : FileTree) (place : Place) : Option Node :=
  if place.isPrefixOf t.directory then some .directory else t.nodes.lookup place

/-- Goes on to `next`, unless the system refuses an access. -/
def unlessRefused {α : Type} (t : FileTree) (access : Access) (place : Place)
    (next : Except FileError α) : Except FileError α :=
  match t.refusals.lookup (access, place) with
  | some e => .error e
  | none => next

/-- Where a name leads from a directory, and what lies there. Long names are refused before they are
looked up. -/
def look (t : FileTree) (place : Place) (name : String) : Except FileError (Place × Option Node) :=
  t.unlessRefused .toEnter place <|
    if Path.maxNameBytes < name.utf8ByteSize then .error .nameTooLong
    else .ok (place.step name, t.node? (place.step name))

/-- The directory that names lead to. -/
def enter (t : FileTree) (place : Place) : List String → Except FileError Place
  | [] => .ok place
  | name :: rest =>
    match t.look place name with
    | .error e => .error e
    | .ok (_, none) => .error .notFound
    | .ok (next, some .directory) => t.enter next rest
    | .ok (_, some _) => .error .notADirectory

/-- What lies at the end of a path, and where that is, if it can be opened. -/
def locate (t : FileTree) (text : String) : Except FileError (Place × Node) :=
  match Path.parse text with
  | .error e => .error e
  | .ok path =>
    match path.names.getLast?, t.enter (path.start t.directory) path.names.dropLast with
    | _, .error e => .error e
    | none, .ok place => t.unlessRefused .toOpen place (.ok (place, .directory))
    | some name, .ok place =>
      match t.look place name with
      | .error e => .error e
      | .ok (_, none) => .error .notFound
      | .ok (next, some .directory) => t.unlessRefused .toOpen next (.ok (next, .directory))
      | .ok (next, some node) =>
        if path.slashAtEnd then .error .notADirectory
        else t.unlessRefused .toOpen next (.ok (next, node))

/-- Opens what lies at the end of a path. A directory can be opened, too. -/
def find (t : FileTree) (text : String) : Except FileError Node :=
  (t.locate text).map (·.2)

/-- The bytes of a file. A directory can be opened, but not read. -/
def read (t : FileTree) (text : String) : Except FileError (List UInt8) :=
  match t.locate text with
  | .error e => .error e
  | .ok (_, .directory) => .error .isADirectory
  | .ok (place, .nullDevice) => t.unlessRefused .toRead place (.ok [])
  | .ok (place, .file bytes) => t.unlessRefused .toRead place (.ok bytes)

/-- The tree in which a file has new contents, whether it was there or not. -/
def write (t : FileTree) (text : String) (bytes : List UInt8) : Except FileError FileTree :=
  match Path.parse text with
  | .error e => .error e
  | .ok path =>
    match path.names.getLast?, t.enter (path.start t.directory) path.names.dropLast with
    | _, .error e => .error e
    | none, .ok _ => .error .isADirectory
    | some name, .ok place =>
      -- a file cannot be made where a directory is meant, and the name is not even looked up
      if path.slashAtEnd then .error .isADirectory
      else
        match t.look place name with
        | .error e => .error e
        | .ok (_, some .directory) => .error .isADirectory
        | .ok (next, some .nullDevice) => t.unlessRefused .toWrite next (.ok t)
        | .ok (next, _) =>
          t.unlessRefused .toWrite next (.ok { t with nodes := (next, .file bytes) :: t.nodes })

end FileTree

end Cosmac
