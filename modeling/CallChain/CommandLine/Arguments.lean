/-
# Arguments of a command

A command takes options and arguments. An option has a long name after two hyphens
or a short one after one; some take a value, which stands after an equals sign,
right after the short name, or as the next argument. Short options may share one
hyphen. Two hyphens alone end the options.
-/

import CallChain.Text.Basic

namespace CallChain.CommandLine

/-- An option that a command knows. -/
structure OptionRule where
  /-- Its long name, with its hyphens. -/
  long : String
  /-- Its short name, if it has one. -/
  short : Option Char := none
  /-- Whether it takes a value. -/
  takesValue : Bool := false

/-- How the arguments of a command are read. -/
structure Rules where
  /-- The options. -/
  options : List OptionRule
  /-- Whether options may stand after arguments. -/
  mixed : Bool := true

/-- The arguments of a command, read. -/
structure Arguments where
  /-- The options that are given, by long name, in order; those that take no value
  have an empty one. -/
  options : List (String × String) := []
  /-- The other arguments, in order. -/
  others : List String := []

/-- What one argument says: the options that it gives, and the long name of one
whose value is the next argument. -/
structure Given where
  /-- The options that are complete. -/
  options : List (String × String)
  /-- The option that waits for its value. -/
  waiting : Option String := none

namespace Rules

variable (rules : Rules)

/-- What short options say that share one hyphen; nothing if one is unknown. -/
def readShort : List Char → Option Given
  | [] => some ⟨[], none⟩
  | c :: rest =>
    match rules.options.find? (·.short = some c) with
    | none => none
    | some rule =>
      if rule.takesValue then
        if rest.isEmpty then some ⟨[], some rule.long⟩
        else some ⟨[(rule.long, String.ofList rest)], none⟩
      else (readShort rest).map fun given =>
        { given with options := (rule.long, "") :: given.options }

/-- What an argument says that starts with a hyphen; nothing if it is wrong. -/
def readOption (argument : List Char) : Option Given :=
  let (long, value) := Text.cutAt '=' argument
  match rules.options.find? (·.long = String.ofList long) with
  | some rule =>
    match rule.takesValue, value with
    | true, some text => some ⟨[(rule.long, String.ofList text)], none⟩
    | true, none => some ⟨[], some rule.long⟩
    | false, some _ => none
    | false, none => some ⟨[(rule.long, "")], none⟩
  | none =>
    if ['-', '-'].isPrefixOf argument then none else rules.readShort (argument.drop 1)

/-- The arguments of a command; nothing if an option is unknown, lacks its value, or
has one that it does not take. -/
def read? : List String → Option Arguments
  | [] => some {}
  | argument :: rest =>
    if argument = "--" then some { others := rest }
    else if argument.toList.head? == some '-' && argument ≠ "-" then
      match rules.readOption argument.toList with
      | none => none
      | some ⟨options, none⟩ => (read? rest).map fun read =>
          { read with options := options ++ read.options }
      | some ⟨options, some name⟩ => match rest with
        | [] => none
        | value :: rest => (read? rest).map fun read =>
            { read with options := options ++ (name, value) :: read.options }
    else if rules.mixed then (read? rest).map fun read =>
        { read with others := argument :: read.others }
    else some { others := argument :: rest }

end Rules

namespace Arguments

variable (arguments : Arguments)

/-- Whether an option is given. -/
def has (name : String) : Bool := arguments.options.any (·.1 = name)

/-- How often an option is given. -/
def count (name : String) : Nat := arguments.options.countP (·.1 = name)

/-- The values of an option, in order. -/
def values (name : String) : List String :=
  arguments.options.filterMap fun option => if option.1 = name then some option.2 else none

/-- The last value of an option. -/
def value? (name : String) : Option String := (arguments.values name).getLast?

/-- The last value of an option that has to be one of a choice, if it is given;
nothing if its value is no choice. -/
def choice? {α : Type} (name : String) (read : String → Option α) : Option (Option α) :=
  match arguments.value? name with
  | none => some none
  | some text => (read text).map some

end Arguments

end CallChain.CommandLine
