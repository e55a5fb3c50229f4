/-! Control sequences of terminals: an escape character and a bracket, then parameters, then
intermediates, then one final character. Text for readers without a terminal is shown without them,
while a sequence that breaks off is text like any other. -/

set_option autoImplicit false

namespace Inclusion.Text

def isSequenceParameter (character : Char) : Bool :=
  0x30 ≤ character.toNat && character.toNat ≤ 0x3F

def isSequenceIntermediate (character : Char) : Bool :=
  0x20 ≤ character.toNat && character.toNat ≤ 0x2F

def isSequenceFinal (character : Char) : Bool :=
  0x40 ≤ character.toNat && character.toNat ≤ 0x7E

/-- What follows a control sequence whose escape character and bracket have been read. -/
def afterSequence? (characters : List Char) : Option (List Char) :=
  match (characters.dropWhile isSequenceParameter).dropWhile isSequenceIntermediate with
  | final :: rest => if isSequenceFinal final then some rest else none
  | [] => none

theorem length_of_afterSequence? {characters rest : List Char}
    (found : afterSequence? characters = some rest) : rest.length < characters.length := by
  have parameters := (List.dropWhile_sublist isSequenceParameter (l := characters)).length_le
  have intermediates := (List.dropWhile_sublist isSequenceIntermediate
    (l := characters.dropWhile isSequenceParameter)).length_le
  unfold afterSequence? at found
  split at found
  · next final tail left =>
    rw [left, List.length_cons] at intermediates
    split at found
    · cases found
      omega
    · contradiction
  · contradiction

/-- Go through a text. The characters kept so far are held in reverse. -/
def dropSequencesAfter (kept : List Char) : List Char → List Char
  | [] => kept.reverse
  | '\x1b' :: '[' :: characters =>
    match _ : afterSequence? characters with
    | some rest => dropSequencesAfter kept rest
    | none => dropSequencesAfter ('[' :: '\x1b' :: kept) characters
  | character :: characters => dropSequencesAfter (character :: kept) characters
termination_by characters => characters.length
decreasing_by
  · have := length_of_afterSequence? ‹_›
    simp only [List.length_cons]
    omega
  · simp only [List.length_cons]
    omega
  · simp only [List.length_cons]
    omega

def withoutSequences (text : String) : String :=
  String.ofList (dropSequencesAfter [] text.toList)

end Inclusion.Text
