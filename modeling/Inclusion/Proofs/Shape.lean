import Inclusion.Proofs.Reconstruction

/-! What the shape of a multiproof decides. From values that denote digests, with a builder that hashes
every message, the numbers of leaves, nodes and flags and the count of the false flags settle whether a
root is reconstructed and, if not, which fault is told. The order of the flags matters only for the
step at which a run stalls. -/

set_option autoImplicit false

namespace Inclusion

section
variable {builder : HashBuilder} {limits : Limits} {proof flags leaves : List Value}
  {digests nodes : List Digest}

theorem processMultiProof_no_flags (within : limits.Within leaves proof [])
    (denoteLeaves : Denote leaves digests) (denoteProof : Denote proof nodes) :
    processMultiProof builder limits proof [] leaves =
      match digests ++ nodes with
      | [sole] => .ok sole
      | _ => .error (.multiProof (.totalHashes leaves.length proof.length 0)) := by
  rw [processMultiProof_eq, reconstruct_no_flags within denoteLeaves denoteProof]
  match digests ++ nodes with
  | [] => rfl
  | [sole] => rfl
  | _ :: _ :: _ => rfl

theorem processMultiProof_of_mismatch (within : limits.Within leaves proof flags)
    (nonempty : flags ≠ []) (mismatch : leaves.length + proof.length ≠ flags.length + 1) :
    processMultiProof builder limits proof flags leaves =
      .error (.multiProof (.totalHashes leaves.length proof.length flags.length)) := by
  rw [processMultiProof_eq, reconstruct_of_mismatch within nonempty mismatch]

-- A run that fails over the queue of the digests fails for the same reason over the values.
theorem processMultiProof_of_run_error (within : limits.Within leaves proof flags)
    (denoteLeaves : Denote leaves digests) (denoteProof : Denote proof nodes)
    (nonempty : flags ≠ []) (fit : leaves.length + proof.length = flags.length + 1)
    {failure : Failure}
    (failed : Queue.run builder.join nodes.length 0 (flags.map Value.truth) ⟨digests, nodes, []⟩ =
      .error failure) :
    processMultiProof builder limits proof flags leaves = .error failure := by
  rw [processMultiProof_eq, reconstruct_of_fit within nonempty fit denoteLeaves denoteProof,
    combine_of_error failed]

theorem node_eq_of_run {flags : List Bool} (nonempty : flags ≠ [])
    (fit : digests.length + nodes.length = flags.length + 1) {cursors : Cursors}
    (ran : Cursors.start.run builder ⟨digests.toArray, nodes.toArray⟩ 0 flags = .ok cursors) :
    cursors.node = nodes.length := by
  obtain ⟨final, went, shows⟩ := (run_start_alike builder digests nodes flags).exists_of_ok ran
  obtain ⟨value, waits, _⟩ := Queue.run_last nonempty went
  obtain ⟨pending, unread, _⟩ := Queue.run_lengths went
  have counts := List.count_true_add_count_false flags
  have positive : 0 < final.pending.length := List.length_pos_of_mem (List.mem_of_getLast? waits)
  have none : final.nodes.length = 0 := by
    dsimp only at pending unread
    omega
  exact shows.node_eq_size_iff.mpr (List.length_eq_zero_iff.mp none)

variable (total : builder.Total) (within : limits.Within leaves proof flags)
  (denoteLeaves : Denote leaves digests) (denoteProof : Denote proof nodes) (nonempty : flags ≠ [])
  (fit : leaves.length + proof.length = flags.length + 1)
include total within denoteLeaves denoteProof nonempty fit

theorem exists_root_iff :
    (∃ root, processMultiProof builder limits proof flags leaves = .ok root) ↔
      (flags.map Value.truth).count false = proof.length := by
  constructor
  · rintro ⟨root, made⟩
    exact (counts_of_reconstruct nonempty (processMultiProof_eq_ok_iff.mp made)).2
  · intro balanced
    have truths : flags.map Value.truth ≠ [] := by simpa using nonempty
    have counts := List.count_true_add_count_false (flags.map Value.truth)
    rw [List.length_map] at counts
    rw [denoteLeaves.length_eq, denoteProof.length_eq] at fit
    rw [denoteProof.length_eq] at balanced
    have enough : (flags.map Value.truth).count true + 1 = digests.length := by omega
    obtain ⟨root, made, ran, _⟩ :=
      Queue.exists_run_to_one total.join nodes.length 0 ⟨digests, nodes, []⟩ truths enough balanced
    refine ⟨root, ?_⟩
    rw [processMultiProof_eq_ok_iff, reconstruct_eq_some_iff nonempty denoteLeaves denoteProof]
    exact ⟨within, made, ran⟩

theorem processMultiProof_of_overrun
    (many : proof.length < (flags.map Value.truth).count false) :
    processMultiProof builder limits proof flags leaves =
      .error (.multiProof (.proofLength (proof.length + 1) proof.length)) := by
  have counts := List.count_true_add_count_false (flags.map Value.truth)
  rw [List.length_map] at counts
  apply processMultiProof_of_run_error within denoteLeaves denoteProof nonempty fit
  rw [denoteLeaves.length_eq, denoteProof.length_eq] at fit
  rw [denoteProof.length_eq] at many ⊢
  have enough : (flags.map Value.truth).count true < digests.length := by omega
  exact Queue.run_overrun total.join enough many

theorem processMultiProof_of_stall
    (few : (flags.map Value.truth).count false < proof.length) :
    ∃ step, Queue.Stalls leaves.length (flags.map Value.truth) step ∧
      processMultiProof builder limits proof flags leaves =
        .error (.multiProof (.rootChild step)) := by
  have truths : flags.map Value.truth ≠ [] := by simpa using nonempty
  have counts := List.count_true_add_count_false (flags.map Value.truth)
  rw [List.length_map] at counts
  have used : digests.length ≤ (flags.map Value.truth).count true := by
    rw [← denoteLeaves.length_eq]
    omega
  have left : (flags.map Value.truth).count false ≤ nodes.length := by
    rw [← denoteProof.length_eq]
    omega
  obtain ⟨step, stalls, failed⟩ :=
    Queue.run_stalls total.join nodes.length 0 ⟨digests, nodes, []⟩ truths used left
  rw [Nat.zero_add] at failed
  refine ⟨step, ?_, ?_⟩
  · rwa [denoteLeaves.length_eq]
  · exact processMultiProof_of_run_error within denoteLeaves denoteProof nonempty fit failed

end

structure ShapeDecides (outcome : Except Failure Digest) (leaves nodes : List Digest)
    (flags : List Bool) : Prop where
  sole (digest : Digest) : flags = [] → leaves ++ nodes = [digest] → outcome = .ok digest
  candidates : flags = [] → leaves.length + nodes.length ≠ 1 →
    outcome = .error (.multiProof (.totalHashes leaves.length nodes.length 0))
  mismatch : flags ≠ [] → leaves.length + nodes.length ≠ flags.length + 1 →
    outcome = .error (.multiProof (.totalHashes leaves.length nodes.length flags.length))
  accepted_iff : flags ≠ [] → leaves.length + nodes.length = flags.length + 1 →
    ((∃ root, outcome = .ok root) ↔ flags.count false = nodes.length)
  balanced_iff : flags ≠ [] → leaves.length + nodes.length = flags.length + 1 →
    (flags.count false = nodes.length ↔ flags.count true + 1 = leaves.length)
  overrun : flags ≠ [] → leaves.length + nodes.length = flags.length + 1 →
    nodes.length < flags.count false →
    outcome = .error (.multiProof (.proofLength (nodes.length + 1) nodes.length))
  stall : flags ≠ [] → leaves.length + nodes.length = flags.length + 1 →
    flags.count false < nodes.length →
    ∃ step, Queue.Stalls leaves.length flags step ∧ outcome = .error (.multiProof (.rootChild step))

namespace ShapeDecides
variable {outcome other : Except Failure Digest} {leaves nodes : List Digest} {flags : List Bool}

theorem ne_ok_of_no_leaves (decides : ShapeDecides outcome [] nodes flags) (nonempty : flags ≠ [])
    (root : Digest) : outcome ≠ .ok root := by
  intro accepted
  by_cases fit : ([] : List Digest).length + nodes.length = flags.length + 1
  · have balanced := (decides.accepted_iff nonempty fit).mp ⟨root, accepted⟩
    have used := (decides.balanced_iff nonempty fit).mp balanced
    rw [List.length_nil] at used
    omega
  · rw [decides.mismatch nonempty fit] at accepted
    cases accepted

theorem exists_error_of_turned {before after : List Bool} {flag : Bool}
    (decides : ShapeDecides outcome leaves nodes (before ++ flag :: after)) {root : Digest}
    (accepted : outcome = .ok root)
    (turned : ShapeDecides other leaves nodes (before ++ (!flag) :: after)) :
    ∃ error, other = .error (.multiProof error) := by
  by_cases fit : leaves.length + nodes.length = (before ++ flag :: after).length + 1
  · have balanced := (decides.accepted_iff (by simp) fit).mp ⟨root, accepted⟩
    have fit' : leaves.length + nodes.length = (before ++ (!flag) :: after).length + 1 := by
      simpa using fit
    rw [List.count_append, Queue.count_cons_eq_add] at balanced
    cases flag with
    | true =>
      refine ⟨_, turned.overrun (by simp) fit' ?_⟩
      rw [List.count_append, Queue.count_cons_eq_add, ← balanced]
      simp
    | false =>
      have few : (before ++ (!false) :: after).count false < nodes.length := by
        rw [List.count_append, Queue.count_cons_eq_add, ← balanced]
        simp
      obtain ⟨step, _, told⟩ := turned.stall (by simp) fit' few
      exact ⟨_, told⟩
  · -- What is accepted has the right number of flags.
    rw [decides.mismatch (by simp) fit] at accepted
    cases accepted

end ShapeDecides

section
variable {builder : HashBuilder} (total : builder.Total) {limits : Limits}
  {proof leaves : List Value} {digests nodes : List Digest}
  (denoteLeaves : Denote leaves digests) (denoteProof : Denote proof nodes)
include total denoteLeaves denoteProof

theorem shapeDecides {flags : List Value} (within : limits.Within leaves proof flags) :
    ShapeDecides (processMultiProof builder limits proof flags leaves) digests nodes
      (flags.map Value.truth) := by
  have leafCount := denoteLeaves.length_eq
  have nodeCount := denoteProof.length_eq
  have counts := List.count_true_add_count_false (flags.map Value.truth)
  have same : (flags.map Value.truth).length = flags.length := List.length_map _
  rw [same] at counts
  constructor
  case sole =>
    intro digest none only
    obtain rfl := List.map_eq_nil_iff.mp none
    rw [processMultiProof_no_flags within denoteLeaves denoteProof, only]
  case candidates =>
    intro none many
    obtain rfl := List.map_eq_nil_iff.mp none
    rw [processMultiProof_no_flags within denoteLeaves denoteProof, leafCount, nodeCount]
    rw [← List.length_append] at many
    match digests ++ nodes, many with
    | [], _ => rfl
    | [_], many => exact absurd rfl many
    | _ :: _ :: _, _ => rfl
  case mismatch =>
    intro truths mismatch
    rw [same, ← leafCount, ← nodeCount] at mismatch ⊢
    exact processMultiProof_of_mismatch within (by simpa using truths) mismatch
  all_goals
    intro truths fit
    have nonempty : flags ≠ [] := by simpa using truths
    rw [same] at fit
  case accepted_iff =>
    rw [← leafCount, ← nodeCount] at fit
    rw [← nodeCount]
    exact exists_root_iff total within denoteLeaves denoteProof nonempty fit
  case balanced_iff => omega
  case overrun =>
    rw [← leafCount, ← nodeCount] at fit
    rw [← nodeCount]
    exact processMultiProof_of_overrun total within denoteLeaves denoteProof nonempty fit
  case stall =>
    rw [← leafCount, ← nodeCount] at fit
    rw [← leafCount, ← nodeCount]
    exact processMultiProof_of_stall total within denoteLeaves denoteProof nonempty fit

/-- The outcome of a multiproof is settled by numbers alone, whatever its digests. So its last check,
for nodes left over, never fails, nothing is proved without leaves, and an accepted multiproof in
which one flag is turned over is told to be at fault. -/
theorem processMultiProof_settled {flags : List Value}
    (within : limits.Within leaves proof flags) :
    ShapeDecides (processMultiProof builder limits proof flags leaves) digests nodes
        (flags.map Value.truth) ∧
      (flags ≠ [] → leaves.length + proof.length = flags.length + 1 → ∀ cursors,
        Cursors.start.run builder ⟨digests.toArray, nodes.toArray⟩ 0 (flags.map Value.truth) =
          .ok cursors → cursors.conclude ⟨digests.toArray, nodes.toArray⟩ =
            .ok cursors.hashes.back?) ∧
      (flags ≠ [] → leaves = [] → ∀ root,
        processMultiProof builder limits proof flags leaves ≠ .ok root) ∧
      ∀ root before flag after flipped, flags = before ++ flag :: after →
        flipped.truth = !flag.truth →
        processMultiProof builder limits proof flags leaves = .ok root →
        ∃ error, processMultiProof builder limits proof (before ++ flipped :: after) leaves =
          .error (.multiProof error) := by
  have decides := shapeDecides total denoteLeaves denoteProof within
  have leafCount := denoteLeaves.length_eq
  have nodeCount := denoteProof.length_eq
  refine ⟨decides, ?_, ?_, ?_⟩
  · intro nonempty fit cursors ran
    have same : (flags.map Value.truth).length = flags.length := List.length_map _
    have all := node_eq_of_run (by simpa using nonempty) (by omega) ran
    simp [Cursors.conclude, all]
  · rintro nonempty rfl root
    obtain rfl : digests = [] := List.forall₂_nil_left_iff.mp denoteLeaves
    exact decides.ne_ok_of_no_leaves (by simpa using nonempty) root
  · rintro root before flag after flipped rfl turned made
    have within' : limits.Within leaves proof (before ++ flipped :: after) := by
      simpa [Limits.Within] using within
    have decides' := shapeDecides total denoteLeaves denoteProof within'
    rw [List.map_append, List.map_cons] at decides decides'
    rw [turned] at decides'
    exact decides.exists_error_of_turned made decides'

end

/-- Two leaves and two nodes in three steps: accepted as they stand, and at fault once the last flag
is turned over. -/
theorem processMultiProof_settled_three_steps :
    (∃ root, processMultiProof HashName.keccak256.builder ⟨2, 2, 3⟩
      [.digest .zero, .buffer .growable Digest.zero.octets] [.integer 7, .null, .boolean false]
      [.buffer .fixed Digest.zero.octets, .digest .zero] = .ok root) ∧
    ∃ error, processMultiProof HashName.keccak256.builder ⟨2, 2, 3⟩
      [.digest .zero, .buffer .growable Digest.zero.octets] [.integer 7, .null, .boolean true]
      [.buffer .fixed Digest.zero.octets, .digest .zero] = .error (.multiProof error) := by
  have read (sort : Buffer) : (Value.buffer sort Digest.zero.octets).toDigest = .ok .zero := by
    change (Digest.ofOctets Digest.zero.octets).mapError .digest = .ok .zero
    rw [Digest.ofOctets_octets]
    rfl
  have leaves : Denote [.buffer .fixed Digest.zero.octets, .digest .zero] [.zero, .zero] :=
    .cons (read .fixed) (.cons rfl .nil)
  have proof : Denote [.digest .zero, .buffer .growable Digest.zero.octets] [.zero, .zero] :=
    .cons rfl (.cons (read .growable) .nil)
  have within : Limits.Within ⟨2, 2, 3⟩ [.buffer .fixed Digest.zero.octets, .digest .zero]
      [.digest .zero, .buffer .growable Digest.zero.octets] [.integer 7, .null, .boolean false] := rfl
  obtain ⟨decides, _, _, turned⟩ :=
    processMultiProof_settled HashName.keccak256.total leaves proof within
  obtain ⟨root, made⟩ := (decides.accepted_iff (by simp) rfl).mpr rfl
  exact ⟨⟨root, made⟩, turned root [.integer 7, .null] (.boolean false) [] (.boolean true) rfl rfl made⟩

end Inclusion
