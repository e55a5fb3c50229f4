import Inclusion.Proofs.PairHash
import Mathlib.Data.List.Perm.Basic

/-! Committed trees and their cuts. A cut is a choice of places in a tree such that every way from the
root to a leaf passes exactly one of them: nothing of the tree is left out and nothing counts twice. -/

set_option autoImplicit false

namespace Inclusion

inductive Tree where
  | leaf (digest : Digest)
  | node (left right : Tree)

inductive Side where
  | left
  | right
  deriving DecidableEq, Repr

namespace Tree
variable (h : Octets → Digest)

def value : Tree → Digest
  | leaf digest => digest
  | node left right => h (left.value.pairMessage right.value)

def messages : Tree → List Octets
  | leaf _ => []
  | node left right =>
    (left.value h).pairMessage (right.value h) :: (left.messages ++ right.messages)

def leaves : Tree → List Digest
  | leaf digest => [digest]
  | node left right => left.leaves ++ right.leaves

/-- The subtree at a place, which is given by the way to it from the root. -/
def subtree? : Tree → List Side → Option Tree
  | tree, [] => some tree
  | node left _, .left :: place => left.subtree? place
  | node _ right, .right :: place => right.subtree? place
  | leaf _, _ :: _ => none

def ways : Tree → List (List Side)
  | leaf _ => [[]]
  | node left right => left.ways.map (.left :: ·) ++ right.ways.map (.right :: ·)

def Stands (tree : Tree) (place : List Side) (digest : Digest) : Prop :=
  ∃ subtree, tree.subtree? place = some subtree ∧ subtree.value h = digest

theorem stands_nil_iff (tree : Tree) (digest : Digest) :
    tree.Stands h [] digest ↔ tree.value h = digest := by
  have whole : tree.subtree? [] = some tree := by cases tree <;> rfl
  simp [Stands, whole]

/-- Places for these digests, one each, that cut a tree. -/
structure Cut (tree : Tree) (places : List (List Side)) (digests : List Digest) : Prop where
  stands : List.Forall₂ (tree.Stands h) places digests
  once (way : List Side) : way ∈ tree.ways → ∃! place, place ∈ places ∧ place <+: way
  apart : places.Pairwise fun first second => ¬first <+: second ∧ ¬second <+: first

theorem length_of_mem_messages {h : Octets → Digest} {tree : Tree} {message : Octets}
    (member : message ∈ tree.messages h) : message.length = 2 * digestWidth := by
  induction tree with
  | leaf digest => cases member
  | node left right ihLeft ihRight =>
    rcases List.mem_cons.mp member with rfl | below
    · exact Digest.length_pairMessage _ _
    · exact (List.mem_append.mp below).elim ihLeft ihRight

namespace Cut
variable {h} {tree left right : Tree} {places : List (List Side)} {digests : List Digest}

theorem root (tree : Tree) : tree.Cut h [[]] [tree.value h] where
  stands := .cons ((stands_nil_iff h tree _).mpr rfl) .nil
  once way _ := ⟨[], by simp, by simp⟩
  apart := List.pairwise_singleton _ _

theorem exists_of_perm {others : List Digest} (cut : tree.Cut h places digests)
    (perm : digests.Perm others) : ∃ places', tree.Cut h places' others := by
  obtain ⟨places', stands, moved⟩ := List.perm_comp_forall₂ perm.symm cut.stands.flip
  refine ⟨places', stands.flip, ?_, ?_⟩
  · intro way reached
    simpa only [moved.mem_iff] using cut.once way reached
  · exact (moved.pairwise_iff (fun apart => apart.symm)).mpr cut.apart

theorem stands_map {tree below : Tree} (side : Side)
    (enter : ∀ place, tree.subtree? (side :: place) = below.subtree? place)
    (stands : List.Forall₂ (below.Stands h) places digests) :
    List.Forall₂ (tree.Stands h) (places.map (side :: ·)) digests := by
  rw [List.forall₂_map_left_iff]
  apply stands.imp
  rintro place digest ⟨subtree, found, value⟩
  exact ⟨subtree, (enter place).trans found, value⟩

-- Below a side, the places on the other side are on no way.
theorem once_below {side other : Side} (distinct : side ≠ other) {way : List Side}
    {inside outside : List (List Side)} (once : ∃! place, place ∈ inside ∧ place <+: way) :
    ∃! place, place ∈ inside.map (side :: ·) ++ outside.map (other :: ·) ∧ place <+: side :: way := by
  obtain ⟨place, ⟨member, before⟩, only⟩ := once
  refine ⟨side :: place, ⟨?_, List.cons_prefix_cons.mpr ⟨rfl, before⟩⟩, ?_⟩
  · exact List.mem_append_left _ (List.mem_map_of_mem member)
  · rintro found ⟨found_member, found_before⟩
    rcases List.mem_append.mp found_member with here | there
    · obtain ⟨place', member', rfl⟩ := List.mem_map.mp here
      rw [only place' ⟨member', (List.cons_prefix_cons.mp found_before).2⟩]
    · obtain ⟨place', _, rfl⟩ := List.mem_map.mp there
      exact absurd (List.cons_prefix_cons.mp found_before).1.symm distinct

theorem node {places' : List (List Side)} {digests' : List Digest}
    (first : left.Cut h places digests) (second : right.Cut h places' digests') :
    (Tree.node left right).Cut h (places.map (.left :: ·) ++ places'.map (.right :: ·))
      (digests ++ digests') where
  stands := List.rel_append (stands_map .left (fun _ => rfl) first.stands)
    (stands_map .right (fun _ => rfl) second.stands)
  once way reached := by
    rcases List.mem_append.mp reached with inLeft | inRight
    · obtain ⟨way, below, rfl⟩ := List.mem_map.mp inLeft
      exact once_below (by decide) (first.once way below)
    · obtain ⟨way, below, rfl⟩ := List.mem_map.mp inRight
      have once : ∃! place, place ∈ places'.map (.right :: ·) ++ places.map (.left :: ·) ∧
          place <+: .right :: way := once_below (by decide) (second.once way below)
      simpa only [List.mem_append, or_comm] using once
  apart := by
    refine List.pairwise_append.mpr ⟨?_, ?_, ?_⟩
    · exact List.pairwise_map.mpr (first.apart.imp fun apart => by simpa using apart)
    · exact List.pairwise_map.mpr (second.apart.imp fun apart => by simpa using apart)
    · simp

end Cut

end Tree

end Inclusion
