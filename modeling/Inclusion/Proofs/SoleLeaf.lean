import Inclusion.Proofs.Climb
import Inclusion.Proofs.Routes

/-! Multiproofs for one leaf. With one false flag for each node the line of waiting values never holds
more than one value, so that the steps climb as a single proof does and fail where it fails. Any other
flags ask for more values than there are, or leave some over. -/

set_option autoImplicit false

namespace Inclusion

/-- One false flag for each node. -/
structure NodeByNode (proof flags : List Value) : Prop where
  falsy : ∀ flag ∈ flags, flag.truth = false
  length : flags.length = proof.length

section
variable {builder : HashBuilder} {limits : Limits} {proof flags : List Value} {leaf : Value}
  {digest : Digest} {nodes : List Digest}

variable (builder) in
/-- A line of one value, of which every step takes the next node, goes as a climb over the nodes. -/
theorem run_alike_climb (denote : Denote proof nodes) (digest : Digest) (made : List Digest)
    (total step : Nat) :
    Alike (fun queue root => queue.pending = [root] ∧ queue.nodes = [])
      (Queue.run builder.join total step (List.replicate nodes.length false) ⟨[digest], nodes, made⟩)
      (climb builder proof digest) := by
  induction denote generalizing digest made step with
  | nil => exact .ok ⟨rfl, rfl⟩
  | @cons value node values nodes head _ ih =>
    change Alike _ (Queue.advance builder.join total step false ⟨[digest], node :: nodes, made⟩ >>= _)
      (value.toDigest >>= _)
    rw [Queue.advance_node, head]
    change Alike _ ((builder.join step digest node).map _ >>= _) (builder.join step digest node >>= _)
    cases builder.join step digest node with
    | error failure => exact .error failure
    | ok parent => exact ih parent (made ++ [parent]) (step + 1)

theorem NodeByNode.truths (nodeByNode : NodeByNode proof flags) (denote : Denote proof nodes) :
    flags.map Value.truth = List.replicate nodes.length false := by
  rw [List.eq_replicate_iff, List.length_map, nodeByNode.length, denote.length_eq]
  refine ⟨rfl, fun truth member => ?_⟩
  obtain ⟨flag, among, rfl⟩ := List.mem_map.mp member
  exact nodeByNode.falsy flag among

theorem processMultiProof_of_nodeByNode (read : leaf.toDigest = .ok digest)
    (denote : Denote proof nodes) (within : limits.Within [leaf] proof flags)
    (nodeByNode : NodeByNode proof flags) :
    processMultiProof builder limits proof flags [leaf] = processProof builder proof leaf := by
  have denoteLeaf : Denote [leaf] [digest] := .cons read .nil
  have alike := run_alike_climb builder denote digest [] nodes.length 0
  rw [← nodeByNode.truths denote] at alike
  rw [processProof_of_read proof read]
  generalize ran : Queue.run builder.join nodes.length 0 (flags.map Value.truth) ⟨[digest], nodes, []⟩ =
    result at alike
  generalize climb builder proof digest = climbed at alike ⊢
  cases alike with
  | @ok queue root reached =>
    obtain ⟨pending, unread, made⟩ := queue
    obtain ⟨rfl, rfl⟩ := reached
    rw [processMultiProof_eq_ok_iff]
    exact reconstruct_of_run within denoteLeaf denote ran
  | error failure =>
    have nonempty : flags ≠ [] := by
      rintro rfl
      cases ran
    have fit : [leaf].length + proof.length = flags.length + 1 := by
      rw [nodeByNode.length, List.length_singleton, Nat.add_comm]
    exact processMultiProof_of_run_error within denoteLeaf denote nonempty fit ran

theorem result_verifyMultiProof_of_nodeByNode (read : leaf.toDigest = .ok digest)
    (denote : Denote proof nodes) (within : limits.Within [leaf] proof flags)
    (nodeByNode : NodeByNode proof flags) (root : Value) :
    (verifyMultiProof builder limits proof flags root [leaf]).result =
      verifyProof builder proof root leaf := by
  have decided : ¬ Undecided limits proof flags [leaf] := by
    rintro ⟨_, rfl, many⟩
    have length := nodeByNode.length
    simp only [List.length_nil, List.length_singleton] at length many
    omega
  rw [result_verifyMultiProof decided, verifyProof_eq,
    processMultiProof_of_nodeByNode read denote within nodeByNode]

theorem count_false_lt_of_not_nodeByNode (other : ¬NodeByNode proof flags)
    (length : flags.length = proof.length) : (flags.map Value.truth).count false < proof.length := by
  rw [← length, ← List.length_map Value.truth]
  refine Nat.lt_of_le_of_ne List.count_le_length fun all => other ⟨fun flag member => ?_, length⟩
  exact (List.count_eq_length.mp all _ (List.mem_map_of_mem member)).symm

theorem exists_multiProofError_of_not_nodeByNode (total : builder.Total)
    (read : leaf.toDigest = .ok digest) (denote : Denote proof nodes)
    (within : limits.Within [leaf] proof flags) (other : ¬NodeByNode proof flags) :
    ∃ error, processMultiProof builder limits proof flags [leaf] = .error (.multiProof error) := by
  have decides := shapeDecides total (.cons read .nil) denote within
  have nodeCount := denote.length_eq
  have flagCount : (flags.map Value.truth).length = flags.length := List.length_map _
  by_cases length : flags.length = proof.length
  · have few := count_false_lt_of_not_nodeByNode other length
    have nonempty : flags.map Value.truth ≠ [] := by
      intro none
      rw [none, List.length_nil] at flagCount
      omega
    have fit : [digest].length + nodes.length = (flags.map Value.truth).length + 1 := by
      rw [List.length_singleton]
      omega
    obtain ⟨step, _, told⟩ := decides.stall nonempty fit (nodeCount ▸ few)
    exact ⟨_, told⟩
  · by_cases none : flags = []
    · have many : [digest].length + nodes.length ≠ 1 := by
        rw [none, List.length_nil] at length
        rw [List.length_singleton]
        omega
      exact ⟨_, decides.candidates (List.map_eq_nil_iff.mpr none) many⟩
    · have mismatch : [digest].length + nodes.length ≠ (flags.map Value.truth).length + 1 := by
        rw [List.length_singleton]
        omega
      exact ⟨_, decides.mismatch (by simpa using none) mismatch⟩

/-- One leaf with one false flag for each node is a single proof, by whatever builder: the batch comes
to the same root or fails in the same way, and it is verified alike against every root. By a builder
that hashes every message, all other flags are a fault of the shape. -/
theorem processMultiProof_of_sole_leaf (read : leaf.toDigest = .ok digest) (denote : Denote proof nodes)
    (within : limits.Within [leaf] proof flags) :
    (NodeByNode proof flags →
      processMultiProof builder limits proof flags [leaf] = processProof builder proof leaf ∧
      ∀ root, (verifyMultiProof builder limits proof flags root [leaf]).result =
        verifyProof builder proof root leaf) ∧
    (builder.Total → ¬NodeByNode proof flags →
      ∃ error, processMultiProof builder limits proof flags [leaf] = .error (.multiProof error)) := by
  refine ⟨fun nodeByNode => ⟨?_, ?_⟩, fun total other => ?_⟩
  · exact processMultiProof_of_nodeByNode read denote within nodeByNode
  · exact result_verifyMultiProof_of_nodeByNode read denote within nodeByNode
  · exact exists_multiProofError_of_not_nodeByNode total read denote within other

end

def emptyBuilder : HashBuilder where
  Hasher := Unit
  fresh := ()
  update := fun _ _ => .ok ()
  finalize := fun _ => ((), [])

/-- A leaf and one node: by a builder of the wrong width both routes fail for this width, and a true
flag is a fault where every message is hashed. -/
theorem processMultiProof_of_sole_leaf_one_node :
    processMultiProof emptyBuilder ⟨1, 1, 1⟩ [.digest .zero] [.integer 0]
        [.buffer .view Digest.zero.octets] = .error (.digest (.wrongWidth 0)) ∧
      (verifyMultiProof emptyBuilder ⟨1, 1, 1⟩ [.digest .zero] [.integer 0] .null
        [.buffer .view Digest.zero.octets]).result = .error (.digest (.wrongWidth 0)) ∧
      ∃ error, processMultiProof HashName.sha256.builder ⟨1, 1, 1⟩ [.digest .zero] [.text "no"]
        [.buffer .view Digest.zero.octets] = .error (.multiProof error) := by
  have read : (Value.buffer .view Digest.zero.octets).toDigest = .ok .zero := by
    change (Digest.ofOctets Digest.zero.octets).mapError .digest = .ok .zero
    rw [Digest.ofOctets_octets]
    rfl
  have denote : Denote [.digest .zero] [.zero] := .cons rfl .nil
  have nodeByNode : NodeByNode [.digest .zero] [.integer 0] := ⟨by simp [Value.truth], rfl⟩
  have truthy : ¬NodeByNode [.digest .zero] [.text "no"] := fun nodeByNode => by
    have falsy := nodeByNode.falsy (.text "no") (by simp)
    revert falsy
    decide
  have failed : processProof emptyBuilder [.digest .zero] (.buffer .view Digest.zero.octets) =
      .error (.digest (.wrongWidth 0)) := by
    decide +kernel
  have within (flag : Value) : Limits.Within ⟨1, 1, 1⟩ [.buffer .view Digest.zero.octets]
      [.digest .zero] [flag] := rfl
  obtain ⟨alike, verified⟩ :=
    (processMultiProof_of_sole_leaf read denote (within (.integer 0))).1 nodeByNode
  refine ⟨alike.trans failed, (verified .null).trans ?_,
    (processMultiProof_of_sole_leaf read denote (within (.text "no"))).2 HashName.sha256.total
      truthy⟩
  rw [verifyProof_eq, failed]
  rfl

end Inclusion
