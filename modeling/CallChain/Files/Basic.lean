/-
# Files

The files that a program sees, by location. A directory exists when something lies
below it or it has been made; the working directory, the directories above it and
the roots exist in any case. A name has at most 255 bytes and a location fewer than
4096, and no name holds the character NUL. Reading and writing say why they cannot
be done. Texts are read with every line end as a line feed, and written as they are.
A file that is not written in UTF-8 has no text: it is there, but it cannot be read.
-/

import CallChain.Files.Location
import CallChain.Text.Digit
import CallChain.Text.Quoted

namespace CallChain

/-- Why a file cannot be read or written. -/
inductive FileProblem where
  /-- Nothing is there. -/
  | missing (l : Location)
  /-- A file stands where a directory should be made. -/
  | occupied (l : Location)
  /-- A file stands on the way. -/
  | notFolder (l : Location)
  /-- A directory is there. -/
  | isFolder (l : Location)
  /-- A name on the way, or the way itself, is too long. -/
  | longName (l : Location)
  /-- A name on the way holds the character NUL. -/
  | nullName (l : Location)
  /-- The file has no text, as it is not written in UTF-8. -/
  | notText (l : Location)
  deriving DecidableEq

namespace FileProblem

/-- The number and the wording of a problem that the file system reports. -/
def report? : FileProblem → Option (Nat × String)
  | missing _ => some (2, "No such file or directory")
  | occupied _ => some (17, "File exists")
  | notFolder _ => some (20, "Not a directory")
  | isFolder _ => some (21, "Is a directory")
  | longName _ => some (36, "File name too long")
  | nullName _ | notText _ => none

/-- Whether the file system reports a problem. The others are found by the reader
itself, and who expects the file system to fail does not expect them. -/
def isReported (p : FileProblem) : Bool := p.report?.isSome

/-- The location that a problem is about. -/
def location : FileProblem → Location
  | missing l | occupied l | notFolder l | isFolder l | longName l | nullName l | notText l => l

/-- The message of a problem. -/
def message (p : FileProblem) : String :=
  match p.report?, p with
  | some (number, wording), _ =>
    "[Errno " ++ Text.natText number ++ "] " ++ wording ++ ": " ++ Text.quoted p.location.text
  | none, notText l => "Not a text in UTF-8: " ++ Text.quoted l.text
  | none, _ => "embedded null byte"

end FileProblem

/-- Who may do what with a file. -/
inductive Access where
  /-- The owner may write it and everyone may read it. -/
  | shared
  /-- The owner alone may read and write it. -/
  | ownerOnly
  deriving DecidableEq

/-- A file. -/
structure File where
  /-- The text that it holds; none if its bytes are not those of a text in UTF-8. -/
  text : Option String
  /-- Who may do what with it. -/
  access : Access := .shared
  deriving DecidableEq

/-- The files that a program sees. -/
structure Files where
  /-- The files, by location. -/
  entries : List (Location × File) := []
  /-- Directories that exist with nothing below them. -/
  folders : List Location := []

namespace Files

variable (fs : Files)

/-- The file at a location that has no two dots on its way. -/
def find? (l : Location) : Option File := fs.entries.lookup l

/-- Whether a directory is at a location that has no two dots after a name. -/
def hasFolder (l : Location) : Bool :=
  l.names.all (· = "..") || fs.folders.any (fun folder => folder = l || l.isAbove folder) ||
    fs.entries.any fun entry => l.isAbove entry.1

/-- Whether a file is at a location above another one. -/
def blocks (l : Location) : Bool := fs.entries.any fun entry => entry.1.isAbove l

/-- The largest number of bytes in a name. -/
def nameLimit : Nat := 255

/-- The largest number of bytes in the text of a location. -/
def wayLimit : Nat := 4095

/-- What is wrong on the way `whole` when a directory is asked for where there is
none. -/
def noFolder (whole l : Location) : FileProblem :=
  if (fs.find? l).isSome || fs.blocks l then .notFolder whole else .missing whole

/-- The location after one more name on the way: two dots go up from a directory. -/
def enter (whole l : Location) (name : String) : Except FileProblem Location :=
  if name = ".." && !l.names.isEmpty && l.name ≠ ".." then
    if fs.hasFolder l then .ok l.parent else .error (fs.noFolder whole l)
  else if nameLimit < name.utf8ByteSize then
    .error (if fs.hasFolder l then .longName whole else fs.noFolder whole l)
  else .ok (l.below [name])

/-- The location without two dots that a location stands for. -/
def resolve (l : Location) : Except FileProblem Location :=
  if l.text.toList.contains '\x00' then .error (.nullName l)
  else if wayLimit < l.text.utf8ByteSize then .error (.longName l)
  else l.names.foldlM (fs.enter l) { l with names := [] }

/-- The file at a location. -/
def file (l : Location) : Except FileProblem File :=
  match fs.resolve l with
  | .error problem => .error problem
  | .ok place => match fs.find? place with
    | some file => .ok file
    | none =>
      if fs.hasFolder place then .error (.isFolder l)
      else if fs.blocks place then .error (.notFolder l)
      else .error (.missing l)

/-- The text with every line end as a line feed. -/
def withLineFeeds : List Char → List Char
  | '\r' :: '\n' :: rest => '\n' :: withLineFeeds rest
  | c :: rest => (if c = '\r' then '\n' else c) :: withLineFeeds rest
  | [] => []

/-- The text of the file at a location. -/
def read (l : Location) : Except FileProblem String :=
  match fs.file l with
  | .error problem => .error problem
  | .ok file => match file.text with
    | none => .error (.notText l)
    | some text => .ok (String.ofList (withLineFeeds text.toList))

/-- Whether a file or a directory is at a location. A way that is too long is a
problem even here. -/
def has (l : Location) : Except FileProblem Bool :=
  match fs.file l with
  | .ok _ | .error (.isFolder _) => .ok true
  | .error (.longName whole) => .error (.longName whole)
  | .error _ => .ok false

/-- Whether a file or a directory is at the location that a text writes. A slash or
a single dot at its end asks for a directory, and the empty text names nothing. -/
def hasText (text : String) : Bool :=
  let l := Location.ofText text
  let last := (Text.splitAt '/' text.toList).getLast?.map String.ofList
  text ≠ "" &&
    (if last = some "" || last = some "." then
      (match fs.resolve l with
        | .ok place => (fs.find? place).isNone && fs.hasFolder place
        | .error _ => false)
    else (match fs.has l with
      | .ok found => found
      | .error _ => false))

/-- The files with the entry at a location bound anew. -/
def bind (l : Location) (file : File) : Files :=
  { fs with entries := fs.entries.filter (·.1 ≠ l) ++ [(l, file)] }

/-- The files after a directory is made in one that exists, unless it is there. -/
def makeOne (l : Location) : Except FileProblem Files :=
  match fs.resolve l.parent with
  | .error problem => .error problem
  | .ok folder =>
    if !fs.hasFolder folder then .error (fs.noFolder l folder)
    else match fs.enter l folder l.name with
      | .error problem => .error problem
      | .ok place =>
        if fs.hasFolder place then .ok fs
        else if (fs.find? place).isSome then .error (.occupied l)
        else .ok { fs with folders := place :: fs.folders }

/-- The files after a directory is made, with those above it that are missing, and
why it could not be made. The names on the way to it come last first. -/
def makeWay (root : String) : List String → Files × Option FileProblem
  | [] => (fs, none)
  | name :: above =>
    let l : Location := ⟨root, (name :: above).reverse⟩
    match fs.makeOne l with
    | .ok made => (made, none)
    | .error (.missing _) =>
      match makeWay root above with
      | (made, some problem) => (made, some problem)
      | (made, none) => match made.makeOne l with
        | .ok made => (made, none)
        | .error problem => (made, some problem)
    | .error problem => (fs, some problem)

/-- The files after a directory is made, with those above it that are missing, and
why it could not be made. -/
def makeFolder (l : Location) : Files × Option FileProblem :=
  fs.makeWay l.root l.names.reverse

/-- The files after a text is written to a location whose directory exists. A file
that was there keeps its access. -/
def put (l : Location) (text : String) : Except FileProblem Files := do
  let place ← fs.resolve l
  if fs.hasFolder place then .error (.isFolder l)
  else
    let access := match fs.find? place with
      | some file => file.access
      | none => .shared
    return fs.bind place ⟨text, access⟩

/-- The files after a text is written to a location, whose directory is made if it
is missing, and why it could not be written. Directories that were made stay. -/
def write (l : Location) (text : String) : Files × Option FileProblem :=
  match fs.makeFolder l.parent with
  | (made, some problem) => (made, some problem)
  | (made, none) => match made.put l text with
    | .ok after => (after, none)
    | .error problem => (made, some problem)

/-- The files with a file at a location kept to its owner. -/
def protect (l : Location) : Files :=
  match fs.resolve l with
  | .error _ => fs
  | .ok place => match fs.find? place with
    | some file => fs.bind place { file with access := .ownerOnly }
    | none => fs

end Files

end CallChain
