import SetupRecipe.Node.Data
import SetupRecipe.Node.Json.Token

/-!
# Reading JSON

Tokens are put together one after the other. The reader keeps the arrays and objects that are still
open, the innermost first, and what may come next.
-/

namespace SetupRecipe

namespace Node

namespace Json

/-- An open array with the items so far, or an open object with the entries so far and the key
whose value is to come. -/
inductive Frame where
  | array (items : List Value)
  | object (entries : Entries Value) (key : String)

/-- What may come next. -/
inductive Expected where
  | value
  | firstItem
  | firstKey
  | key
  | colon
  | separator
  | nothing
deriving DecidableEq

/-- The state of the reader; `done` is the value that was completed with nothing open. -/
structure Reading where
  frames : List Frame
  expected : Expected
  done : Option Value

/-- How many arrays and objects may be open at once. -/
def maxNesting : Nat := 127

namespace Reading

def start : Reading := { frames := [], expected := .value, done := none }

/-- A completed value goes to the innermost open array or object. -/
def deliver (reading : Reading) (value : Value) : Reading :=
  match reading.frames with
  | [] => { frames := [], expected := .nothing, done := some value }
  | .array items :: frames =>
    { reading with frames := .array (items ++ [value]) :: frames, expected := .separator }
  | .object entries key :: frames =>
    { reading with frames := .object (entries.insert key value) key :: frames, expected := .separator }

def enter? (reading : Reading) (frame : Frame) (expected : Expected) : Option Reading :=
  if reading.frames.length < maxNesting then
    some { reading with frames := frame :: reading.frames, expected }
  else none

/-- Takes a token that starts a value. -/
def value? (reading : Reading) : Token → Option Reading
  | .openArray => reading.enter? (.array []) .firstItem
  | .openObject => reading.enter? (.object [] "") .firstKey
  | .boolean b => some (reading.deliver (.boolean b))
  | .integer i => some (reading.deliver (.integer i))
  | .decimal x => some (reading.deliver (.decimal x))
  | .text s => some (reading.deliver (.text s))
  | _ => none

/-- Closes the innermost array or object. -/
def close? (reading : Reading) : Token → Option Reading
  | .closeArray =>
    match reading.frames with
    | .array items :: frames => some (deliver { reading with frames } (.array items))
    | _ => none
  | .closeObject =>
    match reading.frames with
    | .object entries _ :: frames => some (deliver { reading with frames } (.object entries))
    | _ => none
  | _ => none

/-- Takes the key of an entry. -/
def key? (reading : Reading) : Token → Option Reading
  | .text s =>
    match reading.frames with
    | .object entries _ :: frames =>
      some { reading with frames := .object entries s :: frames, expected := .colon }
    | _ => none
  | _ => none

/-- What comes after a comma: another item or another key. -/
def continue? (reading : Reading) : Option Reading :=
  match reading.frames with
  | .array _ :: _ => some { reading with expected := .value }
  | .object _ _ :: _ => some { reading with expected := .key }
  | [] => none

/-- Takes one token. -/
def step? (reading : Reading) (token : Token) : Option Reading :=
  match reading.expected with
  | .value => reading.value? token
  | .firstItem =>
    match token with
    | .closeArray => reading.close? token
    | _ => reading.value? token
  | .firstKey =>
    match token with
    | .closeObject => reading.close? token
    | _ => reading.key? token
  | .key => reading.key? token
  | .colon =>
    match token with
    | .colon => some { reading with expected := .value }
    | _ => none
  | .separator =>
    match token with
    | .comma => reading.continue?
    | _ => reading.close? token
  | .nothing => none

/-- Takes tokens in their order. -/
def run? (reading : Reading) : List Token → Option Reading
  | [] => some reading
  | token :: tokens => (reading.step? token).bind fun next => next.run? tokens

end Reading

end Json

/-- The value of a JSON text. -/
def Value.ofJson? (source : String) : Option Value := do
  let tokens ← Json.tokens? source.toList
  (← Json.Reading.start.run? tokens).done

end Node

/-- The node data of a JSON text, which must be an object. -/
def NodeData.ofJson? (source : String) : Option NodeData :=
  match Node.Value.ofJson? source with
  | some (.object entries) => some ⟨entries⟩
  | _ => none

end SetupRecipe
