/-! How alike two texts are. A longest common block is taken out of both, and then what stands before
it and what stands after it is compared in the same way; the characters in all these blocks count. -/

set_option autoImplicit false

namespace Inclusion.Text

structure CommonBlock where
  left : Nat
  right : Nat
  size : Nat
  deriving DecidableEq, Repr

def sharedStart : List Char → List Char → Nat
  | first :: firsts, second :: seconds =>
    if first == second then sharedStart firsts seconds + 1 else 0
  | _, _ => 0

/-- The longest common block, and of several that which starts first on the left, then on the
right. -/
def longestBlock (left right : List Char) : CommonBlock :=
  let starts := (List.range left.length).flatMap fun i =>
    (List.range right.length).map fun j => (i, j)
  starts.foldl (fun best (i, j) =>
    let size := sharedStart (left.drop i) (right.drop j)
    if best.size < size then ⟨i, j, size⟩ else best) ⟨0, 0, 0⟩

def commonCharacters (left right : List Char) : Nat :=
  match longestBlock left right with
  | ⟨i, j, size⟩ =>
    if _inside : 0 < size ∧ i + size ≤ left.length then
      commonCharacters (left.take i) (right.take j) + size +
        commonCharacters (left.drop (i + size)) (right.drop (j + size))
    else 0
termination_by left.length
decreasing_by
  · rw [List.length_take]
    omega
  · rw [List.length_drop]
    omega

/-- Two texts are alike if at least six tenths of their characters lie in common blocks. Texts whose
lengths differ too much for that are not searched. -/
def areAlike (left right : List Char) : Bool :=
  let total := left.length + right.length
  3 * total ≤ 10 * min left.length right.length && 3 * total ≤ 10 * commonCharacters left right

def nearMisses (choices : List String) (text : String) : List String :=
  choices.filter fun choice => areAlike choice.toList text.toList

end Inclusion.Text
