/-! Blank characters, in the three sets that the readers of this library skip. Trimming takes
the blanks of one set from both ends of a text and keeps those inside it. -/

set_option autoImplicit false

namespace Inclusion.Text

def isAsciiBlank (character : Char) : Bool :=
  character.val == 0x20 || (0x09 ≤ character.val && character.val ≤ 0x0D)

def isWhiteSpace (character : Char) : Bool :=
  isAsciiBlank character || character.val == 0x85 || character.val == 0xA0 ||
  character.val == 0x1680 || (0x2000 ≤ character.val && character.val ≤ 0x200A) ||
  character.val == 0x2028 || character.val == 0x2029 || character.val == 0x202F ||
  character.val == 0x205F || character.val == 0x3000

/-- White space together with the four information separators, which also part words. -/
def isBlank (character : Char) : Bool :=
  isWhiteSpace character || (0x1C ≤ character.val && character.val ≤ 0x1F)

def trim (drop : Char → Bool) (characters : List Char) : List Char :=
  ((characters.dropWhile drop).reverse.dropWhile drop).reverse

theorem isBlank_of_isAsciiBlank {character : Char} (blank : isAsciiBlank character = true) :
    isBlank character = true := by
  simp [isBlank, isWhiteSpace, blank]

@[simp] theorem trim_nil (drop : Char → Bool) : trim drop [] = [] := rfl

end Inclusion.Text
