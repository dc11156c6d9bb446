/-
# Locations of files

A location is the way to a file: names of directories and of the file itself,
from the root or from the working directory. Empty names and single dots do not
count; two dots do, as they may follow a link. Two slashes at the start are a root
of their own.
-/

import CallChain.Text.Basic

namespace CallChain

/-- The way to a file or a directory. -/
structure Location where
  /-- The slashes that a way from the root starts with. -/
  root : String := ""
  /-- The names on the way. -/
  names : List String
  deriving DecidableEq

namespace Location

/-- The location that a text writes. -/
def ofText (text : String) : Location :=
  let chars := text.toList
  let slashes := (chars.takeWhile (· = '/')).length
  let names := ((Text.splitAt '/' chars).map String.ofList).filter fun name =>
    name ≠ "" && name ≠ "."
  ⟨if slashes = 0 then "" else if slashes = 2 then "//" else "/", names⟩

/-- The text of a location. -/
def text (l : Location) : String :=
  if l.names.isEmpty then (if l.root = "" then "." else l.root)
  else l.root ++ Text.join "/" l.names

/-- The directory that holds a location. -/
def parent (l : Location) : Location := { l with names := l.names.dropLast }

/-- A location below a directory. -/
def below (l : Location) (names : List String) : Location := { l with names := l.names ++ names }

/-- The last name of a location. -/
def name (l : Location) : String := l.names.getLast?.getD ""

/-- The last name without its ending: what stands before its last dot, unless
nothing stands before or after that dot. -/
def stem (l : Location) : String :=
  match Text.cutAt '.' l.name.toList.reverse with
  | (ending, some before) =>
    if ending.isEmpty || before.isEmpty then l.name else String.ofList before.reverse
  | (_, none) => l.name

/-- Whether a location lies above another one. -/
def isAbove (l other : Location) : Bool :=
  l.root = other.root && l.names.isPrefixOf other.names && l.names ≠ other.names

end Location

end CallChain
