/-
# The token store

The token is one member of a JSON object in a file; the other members belong to
other programs and stay as they are. A file that is missing or holds no object counts
as an empty one, and a write says whether it succeeded. What is left are faults: a
location whose way is too long or holds the character NUL, a file that is not written
in UTF-8, and a text with a number that is not read or with too deep a nesting.
-/

import CallChain.Fault
import CallChain.Files.Basic
import CallChain.Json.Reader
import CallChain.Json.Writer

namespace CallChain

/-- Where the token is kept. -/
structure TokenStore where
  /-- The file. -/
  location : Location
  /-- The name of the member. -/
  key : String := "api-sequencer-token"

namespace TokenStore

/-- The object that a text holds, empty if it holds none. -/
def contentOf (text : String) : Except Fault (Fields Value) :=
  match Json.read text with
  | .ok (.object fields) => .ok fields
  | .ok _ | .error (.malformed _) => .ok []
  | .error (.number problem) => .error (.badNumber problem)
  | .error .tooDeep => .error .nestedTooDeep

/-- What the file holds. -/
def content (store : TokenStore) (fs : Files) : Except Fault (Fields Value) :=
  match fs.has store.location with
  | .error problem => .error (.badFile problem)
  | .ok _ => match fs.read store.location with
    | .ok text => contentOf text
    | .error (.notText l) => .error (.badFile (.notText l))
    | .error _ => .ok []

/-- The token of an object: a text that is not empty. -/
def tokenOf? (store : TokenStore) (fields : Fields Value) : Option String :=
  ((fields.get? store.key).bind Value.text?).filter (· ≠ "")

/-- The token that is stored. -/
def get? (store : TokenStore) (fs : Files) : Except Fault (Option String) :=
  (store.content fs).map store.tokenOf?

/-- Whether an object could be written, for the owner alone, and the files after
that. -/
def write (store : TokenStore) (fs : Files) (fields : Fields Value) : Except Fault Bool × Files :=
  match fs.write store.location (Json.indented (.object fields)) with
  | (after, none) => (.ok true, after.protect store.location)
  | (after, some (.nullName l)) => (.error (.badFile (.nullName l)), after)
  | (after, some _) => (.ok false, after)

/-- Whether the token could be removed, and the files after that. Without a token
nothing is written. -/
def remove (store : TokenStore) (fs : Files) : Except Fault Bool × Files :=
  match store.content fs with
  | .error fault => (.error fault, fs)
  | .ok fields =>
    if fields.has store.key then store.write fs (fields.erase store.key) else (.ok true, fs)

/-- Whether a token could be stored, and the files after that. The empty token
removes the one that is stored. -/
def set (store : TokenStore) (fs : Files) (token : String) : Except Fault Bool × Files :=
  if token = "" then store.remove fs
  else match store.content fs with
    | .error fault => (.error fault, fs)
    | .ok fields => store.write fs (fields.set store.key (.text token))

end TokenStore

end CallChain
