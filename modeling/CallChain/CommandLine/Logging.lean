/-
# Logging

How much a command says about what it does. Being quiet wins over being verbose;
a verbose command also says when and where.
-/

namespace CallChain.CommandLine

/-- From which importance on messages are shown. -/
inductive LogLevel where
  | debug | info | warning
  deriving DecidableEq, Repr

namespace LogLevel

/-- The name of a level. -/
def name : LogLevel → String
  | debug => "DEBUG"
  | info => "INFO"
  | warning => "WARNING"

end LogLevel

/-- How messages are shown. -/
structure Logging where
  /-- From which importance on. -/
  level : LogLevel
  /-- With the time. -/
  showTime : Bool
  /-- With the place in the program. -/
  showPath : Bool
  deriving DecidableEq

/-- The logging that a command line asks for. -/
def Logging.ofFlags (verbosity : Int) (quiet : Bool) : Logging :=
  { level := if quiet then .warning else if 1 ≤ verbosity then .debug else .info
    showTime := 1 ≤ verbosity
    showPath := 1 ≤ verbosity }

end CallChain.CommandLine
