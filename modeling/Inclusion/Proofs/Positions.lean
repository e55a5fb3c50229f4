import Inclusion.Proofs.Precedence

/-! Where the cursors stand. A multiproof comes to what serving one plain line of values comes to, also
where a step fails or a hash is refused. On the way the cursors add up to the steps made and the true
flags among them, none gets beyond what it goes through, and every value is read from within its
sequence. -/

set_option autoImplicit false

namespace Inclusion

/-- Serve a line of values by the flags left. Each step takes the first value out of the line, and either
the next one too or a node of the proof, and puts their hash at the end. After the last step the value
put there last is the answer. Where the nodes run out, the failure names one more than were consumed and
the total that there were. -/
def serve (builder : HashBuilder) (total : Nat) (step consumed : Nat) :
    List Bool → (line nodes : List Digest) → (last : Option Digest) → Except Failure (Option Digest)
  | [], _, _, last => .ok last
  | _ :: _, [], _, _ => .error (.multiProof (.rootChild step))
  | flag :: flags, first :: line, nodes, _ =>
    match flag, line, nodes with
    | true, [], _ => .error (.multiProof (.rootChild step))
    | true, second :: line, nodes => do
      let made ← builder.hashSorted first.octets second.octets
      serve builder total (step + 1) consumed flags (line ++ [made]) nodes (some made)
    | false, _, [] => .error (.multiProof (.proofLength (consumed + 1) total))
    | false, line, second :: nodes => do
      let made ← builder.hashSorted first.octets second.octets
      serve builder total (step + 1) (consumed + 1) flags (line ++ [made]) nodes (some made)

section
variable {builder : HashBuilder}

theorem Queue.run_cons {α : Type} {join : Nat → α → α → Except Failure α} {total step : Nat}
    (flag : Bool) (flags : List Bool) (queue : Queue α) :
    run join total step (flag :: flags) queue =
      queue.advance join total step flag >>= run join total (step + 1) flags := rfl

/-- A queue that forgets what it has made, except for the last of it, is such a line. -/
theorem serve_eq {flags : List Bool} {line nodes made : List Digest} {total consumed : Nat}
    (step : Nat) (left : consumed + nodes.length = total) :
    serve builder total step consumed flags line nodes made.getLast? =
      (Queue.run builder.join total step flags ⟨line, nodes, made⟩).map
        fun final => final.made.getLast? := by
  induction flags generalizing line nodes made consumed step with
  | nil => rfl
  | cons flag flags ih =>
    -- Wherever the second value is from, its hash with the first is what both put at the end.
    have hashed (first second : Digest) {line nodes : List Digest} {consumed : Nat}
        (left : consumed + nodes.length = total) :
        (builder.hashSorted first.octets second.octets >>= fun value =>
          serve builder total (step + 1) consumed flags (line ++ [value]) nodes (some value)) =
        ((builder.join step first second).map (Queue.push ⟨line, nodes, made⟩) >>=
          Queue.run builder.join total (step + 1) flags).map fun final => final.made.getLast? := by
      unfold HashBuilder.join
      cases builder.hashSorted first.octets second.octets with
      | error failure => rfl
      | ok value =>
        have served := @ih (line ++ [value]) nodes (made ++ [value]) consumed (step + 1) left
        rwa [List.getLast?_concat] at served
    match flag, line, nodes with
    | flag, [], nodes => cases flag <;> rfl
    | true, [first], nodes => rfl
    | false, first :: line, [] =>
      -- All nodes have been consumed here, so that both count the same.
      rw [List.length_nil, Nat.add_zero] at left
      subst left
      rfl
    | true, first :: second :: line, nodes =>
      rw [Queue.run_cons, Queue.advance_pending]
      exact hashed first second left
    | false, first :: line, second :: nodes =>
      rw [List.length_cons, Nat.add_comm nodes.length, ← Nat.add_assoc] at left
      rw [Queue.run_cons, Queue.advance_node]
      exact hashed first second left

end

namespace Cursors

/-! ## Reading -/

/-- The next pending value is read where the cursor of the leaves stands, and behind the last leaf where
that of the hashes does. -/
inductive ReadsPending (supply : Supply) (cursors : Cursors) : Digest × Cursors → Prop where
  | leaf (inside : cursors.leaf < supply.leaves.size) :
      ReadsPending supply cursors
        (supply.leaves[cursors.leaf], { cursors with leaf := cursors.leaf + 1 })
  | hash (behind : supply.leaves.size ≤ cursors.leaf) (inside : cursors.hash < cursors.hashes.size) :
      ReadsPending supply cursors
        (cursors.hashes[cursors.hash], { cursors with hash := cursors.hash + 1 })

inductive ReadsNode (supply : Supply) (cursors : Cursors) : Digest × Cursors → Prop where
  | node (inside : cursors.node < supply.nodes.size) :
      ReadsNode supply cursors (supply.nodes[cursors.node], { cursors with node := cursors.node + 1 })

def ReadsFlagged (supply : Supply) (flag : Bool) (cursors : Cursors) (read : Digest × Cursors) : Prop :=
  if flag then cursors.ReadsPending supply read else cursors.ReadsNode supply read

section
variable {supply : Supply} {cursors : Cursors} {read : Digest × Cursors} {step : Nat}

theorem nextPending_eq_ok_iff :
    cursors.nextPending supply step = .ok read ↔ cursors.ReadsPending supply read := by
  unfold nextPending
  constructor
  · intro taken
    split at taken
    next leaf found =>
      obtain ⟨inside, rfl⟩ := Array.getElem?_eq_some_iff.mp found
      cases taken
      exact .leaf inside
    next missing =>
      split at taken
      next hash found =>
        obtain ⟨inside, rfl⟩ := Array.getElem?_eq_some_iff.mp found
        cases taken
        exact .hash (Array.getElem?_eq_none_iff.mp missing) inside
      next => cases taken
  · rintro (⟨inside⟩ | ⟨behind, inside⟩)
    · rw [Array.getElem?_eq_getElem inside]
    · rw [Array.getElem?_eq_none behind, Array.getElem?_eq_getElem inside]

theorem nextNode_eq_ok_iff : cursors.nextNode supply = .ok read ↔ cursors.ReadsNode supply read := by
  unfold nextNode
  constructor
  · intro taken
    split at taken
    next node found =>
      obtain ⟨inside, rfl⟩ := Array.getElem?_eq_some_iff.mp found
      cases taken
      exact .node inside
    next => cases taken
  · rintro ⟨inside⟩
    rw [Array.getElem?_eq_getElem inside]

theorem nextFlagged_eq_ok_iff {flag : Bool} :
    cursors.nextFlagged supply step flag = .ok read ↔ cursors.ReadsFlagged supply flag read := by
  cases flag with
  | false => exact nextNode_eq_ok_iff
  | true => exact nextPending_eq_ok_iff

/-! ## Adding up -/

structure After (supply : Supply) (flags : List Bool) (number : Nat) (cursors : Cursors) : Prop where
  leaf_le : cursors.leaf ≤ supply.leaves.size
  hash_le : cursors.hash ≤ cursors.hashes.size
  node_le : cursors.node ≤ supply.nodes.size
  made : cursors.hashes.size = number
  pending : cursors.leaf + cursors.hash = number + (flags.take number).count true
  nodes : cursors.node = (flags.take number).count false

theorem after_of_run {builder : HashBuilder} {leaves nodes : List Digest} {flags : List Bool}
    {number : Nat} (few : number ≤ flags.length)
    (ran : start.run builder ⟨leaves.toArray, nodes.toArray⟩ 0 (flags.take number) = .ok cursors) :
    cursors.After ⟨leaves.toArray, nodes.toArray⟩ flags number := by
  -- The queue that the cursors stand for has lost a value for each true flag and a node for each other.
  obtain ⟨queue, went, shows⟩ := (run_start_alike builder leaves nodes _).exists_of_ok ran
  obtain ⟨pending, unread, made⟩ := Queue.run_lengths went
  have leaf_le := shows.leaf_le
  have hash_le := shows.hash_le
  have node_le := shows.node_le
  rw [shows.pending, List.length_append, List.length_drop, List.length_drop] at pending
  rw [shows.nodes, List.length_drop] at unread
  rw [shows.made, List.length_take_of_le few] at made
  simp only [Array.length_toList, List.size_toArray, List.length_nil, Nat.zero_add]
    at leaf_le hash_le node_le pending unread made
  refine ⟨shows.leaf_le, shows.hash_le, shows.node_le, made, ?_, ?_⟩ <;> omega

theorem exists_last_of_run {builder : HashBuilder} {leaves nodes : List Digest} {flags : List Bool}
    (nonempty : flags ≠ []) (fit : leaves.length + nodes.length = flags.length + 1)
    (ran : start.run builder ⟨leaves.toArray, nodes.toArray⟩ 0 flags = .ok cursors) :
    ∃ inside : flags.length - 1 < cursors.hashes.size,
      combine builder ⟨leaves.toArray, nodes.toArray⟩ flags =
        .ok (some cursors.hashes[flags.length - 1]) := by
  have whole : start.run builder ⟨leaves.toArray, nodes.toArray⟩ 0 (flags.take flags.length) =
      .ok cursors := by
    rwa [List.take_length]
  have made := (after_of_run (Nat.le_refl _) whole).made
  have positive := List.length_pos_of_ne_nil nonempty
  have inside : flags.length - 1 < cursors.hashes.size := by omega
  obtain ⟨root, last, combined⟩ := combine_of_run nonempty fit ran
  refine ⟨inside, ?_⟩
  rw [Array.back?_eq_getElem?, made, Array.getElem?_eq_getElem inside, Option.some.injEq] at last
  rw [combined, last]

end

end Cursors

section
variable {builder : HashBuilder} {digests nodes : List Digest} {flags : List Bool}

theorem combine_eq_serve (nonempty : flags ≠ [])
    (fit : digests.length + nodes.length = flags.length + 1) :
    combine builder ⟨digests.toArray, nodes.toArray⟩ flags =
      serve builder nodes.length 0 0 flags digests nodes none := by
  have served := @serve_eq builder flags digests nodes [] nodes.length 0 0 (Nat.zero_add _)
  rw [List.getLast?_nil] at served
  rw [served]
  cases ran : Queue.run builder.join nodes.length 0 flags ⟨digests, nodes, []⟩ with
  | error failure => exact combine_of_error ran
  | ok final =>
    obtain ⟨cursors, went, shows⟩ := (run_start_alike builder digests nodes flags).exists_of_ok_right ran
    obtain ⟨root, last, combined⟩ := combine_of_run nonempty fit went
    rw [combined, ← last, ← Array.getLast?_toList, ← shows.made]
    rfl

end

/-- With one value more than there are flags, the cursors come to what serving a plain line comes to, by
every builder and with every failure. After each step they add up to the steps and the true flags so
far, and nothing is read from outside the sequences, not even the last hash. -/
theorem cursors_serve_line {builder : HashBuilder} {proof flags leaves : List Value}
    {digests nodes : List Digest} (nonempty : flags ≠ [])
    (fit : leaves.length + proof.length = flags.length + 1) (denoteLeaves : Denote leaves digests)
    (denoteProof : Denote proof nodes) :
    let supply : Supply := ⟨digests.toArray, nodes.toArray⟩
    let truths := flags.map Value.truth
    combine builder supply truths = serve builder nodes.length 0 0 truths digests nodes none ∧
    (∀ limits : Limits, limits.Within leaves proof flags →
      reconstruct builder limits proof flags leaves =
        serve builder nodes.length 0 0 truths digests nodes none) ∧
    (∀ number ≤ flags.length, ∀ cursors,
      Cursors.start.run builder supply 0 (truths.take number) = .ok cursors →
        cursors.After supply truths number ∧
        ∀ flag, truths[number]? = some flag →
          ∀ read, cursors.nextPending supply number = .ok read →
            cursors.ReadsPending supply read ∧
            ∀ other, read.2.nextFlagged supply number flag = .ok other →
              read.2.ReadsFlagged supply flag other) ∧
    ∀ cursors, Cursors.start.run builder supply 0 truths = .ok cursors →
      ∃ inside : flags.length - 1 < cursors.hashes.size,
        combine builder supply truths = .ok (some cursors.hashes[flags.length - 1]) := by
  intro supply truths
  have count : truths.length = flags.length := List.length_map ..
  have some_truth : truths ≠ [] := by simpa [truths] using nonempty
  have room : digests.length + nodes.length = truths.length + 1 := by
    rw [← denoteLeaves.length_eq, ← denoteProof.length_eq, count, fit]
  have served : combine builder supply truths = serve builder nodes.length 0 0 truths digests nodes none :=
    combine_eq_serve some_truth room
  refine ⟨served, ?_, ?_, ?_⟩
  · intro limits within
    rw [reconstruct_of_fit within nonempty fit denoteLeaves denoteProof, served]
  · intro number few cursors ran
    refine ⟨Cursors.after_of_run (count ▸ few) ran, ?_⟩
    intro flag _ read taken
    exact ⟨Cursors.nextPending_eq_ok_iff.mp taken, fun other => Cursors.nextFlagged_eq_ok_iff.mp⟩
  · intro cursors ran
    rw [← count]
    exact Cursors.exists_last_of_run some_truth room ran

/-- Two leaves and one node, of which two true flags never read the node: the second step finds one value
in the line, and after the first the cursors of leaves and hashes have come two places. -/
theorem cursors_serve_line_stalled :
    let builder : HashBuilder := ⟨Unit, (), fun hasher _ => .ok hasher, fun _ => ((), Digest.zero.octets)⟩
    let supply : Supply := ⟨#[.zero, .zero], #[.zero]⟩
    reconstruct builder ⟨2, 1, 2⟩ [.digest .zero] [.integer 7, .boolean true]
        [.digest .zero, .digest .zero] = .error (.multiProof (.rootChild 1)) ∧
      ∃ cursors, Cursors.start.run builder supply 0 [true] = .ok cursors ∧
        cursors.leaf + cursors.hash = 2 ∧ cursors.node = 0 := by
  intro builder supply
  have leaves : Denote [.digest .zero, .digest .zero] [.zero, .zero] := denote_map_digest [.zero, .zero]
  have proof : Denote [.digest .zero] [.zero] := denote_map_digest [.zero]
  obtain ⟨_, made, stands, _⟩ := @cursors_serve_line builder [.digest .zero] [.integer 7, .boolean true]
    [.digest .zero, .digest .zero] [.zero, .zero] [.zero] (by simp) rfl leaves proof
  have ran : Cursors.start.run builder supply 0 [true] = .ok ⟨2, 0, 0, #[.zero]⟩ := rfl
  have after := (stands 1 (by decide) _ ran).1
  exact ⟨made ⟨2, 1, 2⟩ rfl, _, ran, after.pending, after.nodes⟩

end Inclusion
