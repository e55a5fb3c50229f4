import Inclusion.Json.Token
import Inclusion.Octets

/-! The strict reader of JSON. It takes one token at a time and keeps the lists and objects that are
still open on a stack, whose depth is bounded. -/

set_option autoImplicit false

namespace Inclusion.Json

/-- A list or an object that is still open, with its entries in reverse. -/
inductive Frame where
  | list (items : List Json)
  | object (entries : List (String × Json))
  /-- An object whose next entry has its key but not yet its value. -/
  | entry (entries : List (String × Json)) (key : String)

inductive Expectation where
  | value
  | valueOrClose
  | key
  | keyOrClose
  | colon
  | commaOrClose
  | finished (value : Json)

structure Reader where
  frames : List Frame
  expected : Expectation

namespace Reader

def start : Reader := ⟨[], .value⟩

def put (frames : List Frame) (value : Json) : Reader :=
  match frames with
  | .list items :: outer => ⟨.list (value :: items) :: outer, .commaOrClose⟩
  | .entry entries key :: outer => ⟨.object ((key, value) :: entries) :: outer, .commaOrClose⟩
  | _ => ⟨[], .finished value⟩

def startValue (depthLimit : Nat) (frames : List Frame) (token : Token) : Option Reader :=
  if depthLimit < frames.length then none
  else match token with
    | .atom value => some (put frames value)
    | .openList => some ⟨.list [] :: frames, .valueOrClose⟩
    | .openObject => some ⟨.object [] :: frames, .keyOrClose⟩
    | _ => none

def close (frames : List Frame) : Token → Option Reader
  | .closeList =>
    match frames with
    | .list items :: outer => some (put outer (.list items.reverse))
    | _ => none
  | .closeObject =>
    match frames with
    | .object entries :: outer => some (put outer (.object entries.reverse))
    | _ => none
  | _ => none

def takeKey (depthLimit : Nat) (frames : List Frame) (key : String) : Option Reader :=
  if depthLimit < frames.length then none
  else match frames with
    | .object entries :: outer => some ⟨.entry entries key :: outer, .colon⟩
    | _ => none

def step (depthLimit : Nat) (reader : Reader) (token : Token) : Option Reader :=
  match reader.expected, token with
  | .value, _ => startValue depthLimit reader.frames token
  | .valueOrClose, .closeList => close reader.frames token
  | .valueOrClose, _ => startValue depthLimit reader.frames token
  | .key, .atom (.text key) => takeKey depthLimit reader.frames key
  | .keyOrClose, .atom (.text key) => takeKey depthLimit reader.frames key
  | .keyOrClose, .closeObject => close reader.frames token
  | .colon, .colon => some { reader with expected := .value }
  | .commaOrClose, .comma =>
    match reader.frames with
    | .list _ :: _ => some { reader with expected := .value }
    | _ => some { reader with expected := .key }
  | .commaOrClose, _ => close reader.frames token
  | _, _ => none

end Reader

def read? (bounds : Bounds) (characters : List Char) : Option Json := do
  let tokens ← tokens? bounds.digits characters
  let reader ← tokens.foldlM (Reader.step bounds.depth) Reader.start
  match reader.expected with
  | .finished value => some value
  | _ => none

def readOctets? (bounds : Bounds) (octets : Octets) : Option Json := do
  let text ← octets.toText?
  read? bounds text.toList

theorem readOctets_ofText (bounds : Bounds) (text : String) :
    readOctets? bounds (.ofText text) = read? bounds text.toList := by
  unfold readOctets?
  rw [Octets.toText_eq_some_iff.mpr rfl]
  rfl

end Inclusion.Json
