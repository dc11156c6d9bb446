/-
# Loaders of YAML

A program does not read YAML itself: it has a `Loader`, which gives the document of a
text or says why it gives none. Nothing is assumed of a loader that is not said where
it is used. `Loader.plain` reads the part of YAML that `Yaml.read` knows.
-/

import CallChain.Yaml.Reader

namespace CallChain.Yaml

/-- Why a loader gives no document. -/
inductive LoadProblem where
  /-- It refuses the text. -/
  | malformed
  /-- A number in the text is not read. -/
  | number (problem : NumberProblem)
  /-- Lists and mappings are inside each other too deeply. -/
  | tooDeep
  /-- Anything else goes wrong, of which the kind is known. -/
  | raised (kind : String)
  deriving DecidableEq

/-- The problem of a text that `Yaml.read` does not read. -/
def LoadProblem.ofRefusal : Refusal Unit → LoadProblem
  | .malformed _ => malformed
  | .number problem => number problem
  | .tooDeep => tooDeep

/-- What reads YAML for a program. -/
structure Loader where
  /-- The document of a text, or why there is none. -/
  load : String → Except LoadProblem Node
  /-- How many lists and mappings may be open when the text of a value is written. -/
  levels : Nat

/-- The loader of a program that is called from nowhere deep, with a thousand calls that
may be open. -/
def Loader.plain : Loader where
  load text := (read text).mapError .ofRefusal
  levels := 900

theorem Loader.plain_load (text : String) :
    plain.load text = (read text).mapError LoadProblem.ofRefusal := rfl

end CallChain.Yaml
