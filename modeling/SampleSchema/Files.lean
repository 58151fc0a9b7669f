/-
  Files, as far as reading and writing them can tell.

  A store is a tree of directories and files, each told by the names that lead to it from the root.
  A file is a text, or bytes that are no text.  A path starts at the root if it begins with a slash,
  and otherwise at the working directory.  It is followed name by name: `.` stays, `..` goes back,
  at the root it stays there, and any other name goes on.  Names can only be looked up in a
  directory.

  What is there may still refuse: a file to be read or to be written, a directory to be entered or
  to take a new name.  A store says which of its places refuse what, and in which words.

  No place stands for another one, so every place has one row of names, and a file gives what was
  last written to it.  A write that fails changes nothing.
-/
import SampleSchema.Text.Position
import SampleSchema.Text.CharSet

namespace SampleSchema

/-- Why a file cannot be read or written. -/
inductive Denial where
  | missing
  | isDirectory
  | notDirectory
  | nameTooLong
  /-- The path holds a null character. -/
  | nullInPath
  /-- The bytes of a file are no text. -/
  | notText
  /-- Another reason, in its own words. -/
  | other (reason : String)
  deriving DecidableEq, Repr

def Denial.message : Denial → String
  | missing => "No such file or directory (os error 2)"
  | isDirectory => "Is a directory (os error 21)"
  | notDirectory => "Not a directory (os error 20)"
  | nameTooLong => "File name too long (os error 36)"
  | nullInPath => "file name contained an unexpected NUL byte"
  | notText => "stream did not contain valid UTF-8"
  | other reason => reason

/-- What a path can lead to. -/
inductive Entry where
  | directory
  | text (s : String)
  /-- A file whose bytes are no text. -/
  | bytes
  deriving DecidableEq, Repr

/-- The text of an entry. -/
def Entry.content : Entry → Except Denial String
  | directory => .error .isDirectory
  | text s => .ok s
  | bytes => .error .notText

/-- Where something can be: the names that lead there from the root. -/
abbrev Place := List String

/-- What can be asked of a place. -/
inductive Use where
  | read
  /-- Of a file, to take another text; of a directory, to take a new name. -/
  | write
  /-- Of a directory, to look up a name. -/
  | enter
  deriving DecidableEq, Repr

/-- A place that refuses a use, and in which words. -/
structure Refusal where
  place : Place
  use : Use
  reason : String
  deriving DecidableEq, Repr

/-- Directories and files by their places. -/
structure Files where
  entries : List (Place × Entry) := []
  workingDirectory : Place := ["home"]
  refusals : List Refusal := []
  deriving DecidableEq, Repr

namespace Files

/-! ## Places -/

/-- What is at a place.  The working directory and those around it are always there, and so is every
    directory inside which something is stored. -/
def entryAt (f : Files) (place : Place) : Option Entry :=
  if place.isPrefixOf f.workingDirectory then some .directory
  else
    match f.entries.find? (·.1 == place) with
    | some e => some e.2
    | none => if f.entries.any (place.isPrefixOf ·.1) then some .directory else none

/-- Refuse a use if the place does. -/
def allow (f : Files) (use : Use) (place : Place) : Except Denial Unit :=
  match f.refusals.find? fun r => r.use = use && r.place = place with
  | some r => .error (.other r.reason)
  | none => .ok ()

/-- Where a name leads from a directory.  From the root there is no way back. -/
def step (place : Place) (name : String) : Place :=
  if name = "" ∨ name = "." then place
  else if name = ".." then place.dropLast
  else place ++ [name]

/-! ## Paths -/

/-- The longest name, in bytes. -/
def longestName : Nat := 255

/-- The longest path, in bytes. -/
def longestPath : Nat := 4095

/-- The names of a path, empty ones included. -/
def namesOf (path : String) : List String := (splitAtChar '/' path.toList).map String.ofList

/-- Where a path starts. -/
def origin (f : Files) (path : String) : Place :=
  if path.toList.head? = some '/' then [] else f.workingDirectory

/-- A store with these files, each under its path. -/
def ofList (files : List (String × Entry)) (workingDirectory : Place := ["home"]) : Files :=
  let empty : Files := { workingDirectory }
  { empty with entries := files.map fun x => ((namesOf x.1).foldl step (empty.origin x.1), x.2) }

/-- Look a name up at a place; nothing need be where it leads.  An empty name, which stands between
    two slashes or behind the last one, asks for a directory and for no more. -/
def enter (f : Files) (place : Place) (name : String) : Except Denial Place :=
  match f.entryAt place with
  | none => .error .missing
  | some .directory =>
    if name = "" then .ok place
    else do
      f.allow .enter place
      if longestName < byteLength name.toList then .error .nameTooLong else .ok (step place name)
  | some _ => .error .notDirectory

/-- Follow names one after the other. -/
def follow (f : Files) (place : Place) (names : List String) : Except Denial Place :=
  names.foldlM f.enter place

/-- Refuse what is no path. -/
def checkPath (path : String) : Except Denial Unit :=
  if path.toList.contains '\x00' then .error .nullInPath
  else if path.isEmpty then .error .missing
  else if longestPath < byteLength path.toList then .error .nameTooLong
  else .ok ()

/-- The place that a path leads to. -/
def locate (f : Files) (path : String) : Except Denial Place := do
  checkPath path
  f.follow (f.origin path) (namesOf path)

/-! ## Reading and writing -/

/-- The text of the file that a path leads to. -/
def read (f : Files) (path : String) : Except Denial String := do
  let place ← f.locate path
  match f.entryAt place with
  | none => .error .missing
  | some e => do
    f.allow .read place
    e.content

/-- Set what is stored at a place. -/
def set (f : Files) (place : Place) (e : Entry) : Files :=
  { f with entries :=
      if f.entries.any (·.1 == place) then
        f.entries.map fun x => if x.1 == place then (place, e) else x
      else f.entries ++ [(place, e)] }

/-- Can the last name of a path not be that of a file? -/
def namesDirectory (name : String) : Bool := name = "" || name = "." || name = ".."

/-- Set the text of the file that a name has in a directory, which takes the name if it is new. -/
def put (f : Files) (directory : Place) (name text : String) : Except Denial Files := do
  let place ← f.enter directory name
  match f.entryAt place with
  | some .directory => .error .isDirectory
  | some _ => do
    f.allow .write place
    .ok (f.set place (.text text))
  | none => do
    f.allow .write directory
    f.allow .write place
    .ok (f.set place (.text text))

/-- Write a text to the file that a path leads to, which is made if it is missing.  A path that ends
    in a slash means a directory, be there one or not. -/
def write (f : Files) (path text : String) : Except Denial Files := do
  checkPath path
  let names := namesOf path
  match names.reverse.dropWhile (· = "") with
  | [] => .error .isDirectory
  | name :: before => do
    -- the directory of the last name is entered before the name itself is looked at
    let directory ← f.follow (f.origin path) (before.reverse ++ ["."])
    if namesDirectory (names.getLast?.getD "") then .error .isDirectory
    else f.put directory name text

end Files
end SampleSchema
