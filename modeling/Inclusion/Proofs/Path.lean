import Inclusion.Proofs.Climb
import Inclusion.Proofs.Tree

/-! Single proofs and the places of a committed tree. The values beside the way to a place are a proof
for the value that stands there, whichever sides they are on. A proof that is accepted for the value
of a tree is followed from the root downward: unless a leaf of the tree is itself a hash that the
climb makes, or two messages collide, it is just the way to a place. -/

set_option autoImplicit false

namespace Inclusion

namespace Tree
variable (h : Octets → Digest)

/-- The values beside the way to a place, the lowest first. -/
def siblings? : Tree → List Side → Option (List Digest)
  | _, [] => some []
  | node left right, .left :: place => (left.siblings? place).map (· ++ [right.value h])
  | node left right, .right :: place => (right.siblings? place).map (· ++ [left.value h])
  | leaf _, _ :: _ => none

/-- A digest stands at a place, as deep as it has siblings, and these stand beside the way to it. -/
structure Path (tree : Tree) (place : List Side) (siblings : List Digest) (digest : Digest) :
    Prop where
  stands : tree.Stands h place digest
  depth : place.length = siblings.length
  beside : tree.siblings? h place = some siblings

namespace Path
variable {h} {tree left right : Tree} {place : List Side} {siblings : List Digest} {digest : Digest}

theorem root (tree : Tree) : tree.Path h [] [] (tree.value h) where
  stands := (stands_nil_iff h tree _).mpr rfl
  depth := rfl
  beside := by cases tree <;> rfl

theorem onLeft (path : left.Path h place siblings digest) :
    (Tree.node left right).Path h (.left :: place) (siblings ++ [right.value h]) digest where
  stands := path.stands
  depth := by simp [path.depth]
  beside := by simp [siblings?, path.beside]

theorem onRight (path : right.Path h place siblings digest) :
    (Tree.node left right).Path h (.right :: place) (siblings ++ [left.value h]) digest where
  stands := path.stands
  depth := by simp [path.depth]
  beside := by simp [siblings?, path.beside]

theorem exists_of_stands (stands : tree.Stands h place digest) :
    ∃ siblings, tree.Path h place siblings digest := by
  induction place generalizing tree with
  | nil =>
    obtain rfl := (stands_nil_iff h tree digest).mp stands
    exact ⟨[], root tree⟩
  | cons side place ih =>
    cases tree with
    | leaf committed =>
      obtain ⟨subtree, found, _⟩ := stands
      simp [subtree?] at found
    | node left right =>
      cases side with
      | left =>
        have below : left.Stands h place digest := stands
        obtain ⟨siblings, path⟩ := ih below
        exact ⟨_, path.onLeft⟩
      | right =>
        have below : right.Stands h place digest := stands
        obtain ⟨siblings, path⟩ := ih below
        exact ⟨_, path.onRight⟩

/-- From the end of a path its siblings lead up to the value of the tree. -/
theorem ascend_eq (path : tree.Path h place siblings digest) :
    digest.ascend h siblings = tree.value h := by
  induction place generalizing tree siblings with
  | nil =>
    obtain rfl := List.length_eq_zero_iff.mp path.depth.symm
    exact ((stands_nil_iff h tree digest).mp path.stands).symm
  | cons side place ih =>
    obtain ⟨stands, depth, beside⟩ := path
    cases tree with
    | leaf committed => simp [siblings?] at beside
    | node left right =>
      -- The sibling next to the root is the value of the other subtree.
      cases side with
      | left =>
        obtain ⟨below, found, rfl⟩ := Option.map_eq_some_iff.mp beside
        rw [Digest.ascend_concat, ih ⟨stands, by simpa using depth, found⟩]
        rfl
      | right =>
        obtain ⟨below, found, rfl⟩ := Option.map_eq_some_iff.mp beside
        rw [Digest.ascend_concat, ih ⟨stands, by simpa using depth, found⟩, Digest.pairMessage_comm]
        rfl

end Path

inductive Arrives (h : Octets → Digest) (digest : Digest) (siblings : List Digest) (count : Nat)
    (tree : Tree) : Prop where
  | path (place : List Side) : tree.Path h place (siblings.take count) digest →
      Arrives h digest siblings count tree
  | leaf (step : Nat) : step < count → digest.ascend h (siblings.take (step + 1)) ∈ tree.leaves →
      Arrives h digest siblings count tree
  | collision (step : Nat) (sibling : Digest) (message : Octets) : siblings[step]? = some sibling →
      message ∈ tree.messages h →
      message.Collide h ((digest.ascend h (siblings.take step)).pairMessage sibling) →
      Arrives h digest siblings count tree

namespace Arrives
variable {h} {digest : Digest} {siblings : List Digest} {count : Nat} {tree below : Tree}

-- What stands in the way in a subtree does so in the tree.
theorem ofSubtree (leaves : below.leaves ⊆ tree.leaves) (messages : below.messages h ⊆ tree.messages h)
    (extend : ∀ place, below.Path h place (siblings.take count) digest →
      ∃ place', tree.Path h place' (siblings.take (count + 1)) digest)
    (arrives : below.Arrives h digest siblings count) :
    tree.Arrives h digest siblings (count + 1) := by
  cases arrives with
  | path place path =>
    obtain ⟨place', path'⟩ := extend place path
    exact .path place' path'
  | leaf step bound member => exact .leaf step (Nat.lt_succ_of_lt bound) (leaves member)
  | collision step sibling message found member collide =>
    exact .collision step sibling message found (messages member) collide

end Arrives

theorem arrives_of_ascend {h : Octets → Digest} {digest : Digest} {siblings : List Digest} {count : Nat}
    (bound : count ≤ siblings.length) {tree : Tree}
    (reached : digest.ascend h (siblings.take count) = tree.value h) :
    tree.Arrives h digest siblings count := by
  induction count generalizing tree with
  | zero =>
    obtain rfl : digest = tree.value h := reached
    exact .path [] (.root tree)
  | succ count ih =>
    have inside : siblings[count]? = some siblings[count] := List.getElem?_eq_getElem bound
    have last : siblings.take (count + 1) = siblings.take count ++ [siblings[count]] := by simp
    have before : count ≤ siblings.length := Nat.le_of_succ_le bound
    rw [last, Digest.ascend_concat] at reached
    generalize siblings[count] = sibling at inside last reached
    cases tree with
    | leaf committed =>
      refine .leaf count (Nat.lt_succ_self count) ?_
      rw [last, Digest.ascend_concat]
      exact List.mem_singleton.mpr reached
    | node left right =>
      by_cases message : (left.value h).pairMessage (right.value h) =
          (digest.ascend h (siblings.take count)).pairMessage sibling
      · -- One message was hashed, so the climb came out of one of the two subtrees.
        obtain ⟨same, rfl⟩ | ⟨rfl, same⟩ := Digest.eq_or_swap_of_pairMessage message
        · refine (ih before same.symm).ofSubtree (List.subset_append_left _ _)
            (List.subset_cons_of_subset _ (List.subset_append_left _ _)) fun place path => ?_
          exact ⟨.left :: place, last ▸ path.onLeft⟩
        · refine (ih before same.symm).ofSubtree (List.subset_append_right _ _)
            (List.subset_cons_of_subset _ (List.subset_append_right _ _)) fun place path => ?_
          exact ⟨.right :: place, last ▸ path.onRight⟩
      · exact .collision count sibling _ inside List.mem_cons_self
          ⟨Digest.length_pairMessage _ _, Digest.length_pairMessage _ _, message, reached.symm⟩

end Tree

/-- What can lie behind a single proof that is accepted for the value of a tree: it is the path to a
place, or a leaf of the tree is a hash that the climb makes, or two messages collide, one of them
hashed for the value of the tree and the other by the climb. -/
inductive PathGrounds (builder : HashBuilder) (h : Octets → Digest) (tree : Tree) (proof : List Value)
    (leaf : Value) (siblings : List Digest) (digest : Digest) : Prop where
  | path (place : List Side) : tree.Path h place siblings digest →
      PathGrounds builder h tree proof leaf siblings digest
  | leaf (step : Nat) (made : Digest) : step < proof.length →
      processProof builder (proof.take (step + 1)) leaf = .ok made → made ∈ tree.leaves →
      PathGrounds builder h tree proof leaf siblings digest
  | collision (step : Nat) (computed sibling : Digest) (message : Octets) :
      Meets builder proof leaf step (computed, sibling) → message ∈ tree.messages h →
      message.Collide h (computed.pairMessage sibling) →
      PathGrounds builder h tree proof leaf siblings digest

/-- A path is accepted as a single proof for the value of the tree, and a single proof is accepted for
it only on these grounds. -/
theorem accepts_path_and_grounds {builder : HashBuilder} {h : Octets → Digest}
    (computes : builder.Computes h) (tree : Tree) {proof : List Value} {root leaf : Value}
    {siblings : List Digest} {digest : Digest} (read : leaf.toDigest = .ok digest)
    (denote : Denote proof siblings) (committed : root.toDigest = .ok (tree.value h)) :
    ((∃ place, tree.Path h place siblings digest) → verifyProof builder proof root leaf = .ok true) ∧
      (verifyProof builder proof root leaf = .ok true →
        PathGrounds builder h tree proof leaf siblings digest) := by
  rw [verifyProof_eq_true_iff committed, processProof_eq computes read denote]
  constructor
  · rintro ⟨place, path⟩
    rw [path.ascend_eq]
  · intro accepted
    have reached : digest.ascend h (siblings.take siblings.length) = tree.value h := by
      rw [List.take_length]
      exact Except.ok.inj accepted
    cases Tree.arrives_of_ascend (Nat.le_refl _) reached with
    | path place path =>
      rw [List.take_length] at path
      exact .path place path
    | leaf step bound member =>
      rw [← denote.length_eq] at bound
      exact .leaf step _ bound (processProof_take computes read denote (step + 1)) member
    | collision step sibling message found member collide =>
      exact .collision step _ sibling message (meets_of_getElem? computes read denote found) member
        collide

/-- The value on the right below the root is accepted over its sibling on the left, on the grounds of
its path. -/
theorem accepts_path_below_root :
    let h := BlockHash.keccak256.digestOf Keccak.length_output
    let tree := Tree.node (.leaf (h [])) (.node (.leaf .zero) (.leaf .zero))
    let inner := h (Digest.zero.pairMessage .zero)
    tree.Path h [.right] [h []] inner ∧
      verifyProof HashName.keccak256.builder [.digest (h [])] (.digest (tree.value h))
        (.digest inner) = .ok true ∧
      PathGrounds HashName.keccak256.builder h tree [.digest (h [])] (.digest inner) [h []] inner := by
  intro h tree inner
  have computes : HashName.keccak256.builder.Computes h :=
    HashBuilder.computes_sealing Keccak.length_output
  have path : tree.Path h [.right] [h []] inner := (Tree.Path.root _).onRight
  have read : (Value.digest inner).toDigest = .ok inner := rfl
  have committed : (Value.digest (tree.value h)).toDigest = .ok (tree.value h) := rfl
  obtain ⟨complete, grounds⟩ :=
    accepts_path_and_grounds computes tree read (denote_map_digest [h []]) committed
  have accepted := complete ⟨_, path⟩
  exact ⟨path, accepted, grounds accepted⟩

end Inclusion
