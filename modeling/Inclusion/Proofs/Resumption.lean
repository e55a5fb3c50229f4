import Inclusion.Proofs.Shape

/-! Multiproofs taken up in the middle. After some steps the values that wait, the nodes left and the
flags left make up a multiproof of their own, in which hashes that were made stand as leaves. It comes
to the same root, because nothing in a step depends on its number or on how its values came to wait. -/

set_option autoImplicit false

namespace Inclusion

/-! ## Runs cut in two -/

namespace Queue
variable {α : Type} {join : Nat → α → α → Except Failure α} {total : Nat}

theorem run_append_eq_ok_iff {before after : List Bool} {step : Nat} {queue final : Queue α} :
    run join total step (before ++ after) queue = .ok final ↔
      ∃ middle, run join total step before queue = .ok middle ∧
        run join total (step + before.length) after middle = .ok final := by
  induction before generalizing step queue with
  | nil =>
    constructor
    · intro ran
      exact ⟨queue, rfl, ran⟩
    · rintro ⟨middle, reached, ran⟩
      cases reached
      exact ran
  | cons flag before ih =>
    have count : step + (flag :: before).length = step + 1 + before.length := by
      rw [List.length_cons]
      omega
    rw [List.cons_append, run_cons_eq_ok_iff, count]
    constructor
    · rintro ⟨next, taken, ran⟩
      obtain ⟨middle, reached, ran⟩ := ih.mp ran
      exact ⟨middle, run_cons_eq_ok_iff.mpr ⟨next, taken, reached⟩, ran⟩
    · rintro ⟨middle, reached, ran⟩
      obtain ⟨next, taken, reached⟩ := run_cons_eq_ok_iff.mp reached
      exact ⟨next, taken, ih.mpr ⟨middle, reached, ran⟩⟩

theorem Step.nodes_eq {step : Nat} {flag : Bool} {queue next : Queue α}
    (taken : Step join step flag queue next) :
    next.nodes = queue.nodes.drop ([flag].count false) := by
  cases taken <;> simp [push]

theorem nodes_of_run {flags : List Bool} {step : Nat} {queue final : Queue α}
    (ran : run join total step flags queue = .ok final) :
    final.nodes = queue.nodes.drop (flags.count false) := by
  induction flags generalizing step queue with
  | nil =>
    cases ran
    rfl
  | cons flag flags ih =>
    obtain ⟨next, taken, ran⟩ := run_cons_eq_ok_iff.mp ran
    rw [ih ran, taken.nodes_eq, List.drop_drop, ← count_cons_eq_add]

theorem Step.restarted (timeless : ∀ step step', join step = join step') {step : Nat} {flag : Bool}
    {queue next : Queue α} (taken : Step join step flag queue next) (step' : Nat) (made : List α) :
    ∃ made', Step join step' flag ⟨queue.pending, queue.nodes, made⟩
      ⟨next.pending, next.nodes, made'⟩ := by
  cases taken with
  | pending joined =>
    rw [timeless step step'] at joined
    exact ⟨_, .pending joined⟩
  | node joined =>
    rw [timeless step step'] at joined
    exact ⟨_, .node joined⟩

theorem run_restarted (timeless : ∀ step step', join step = join step') {flags : List Bool}
    {step : Nat} {queue final : Queue α} (ran : run join total step flags queue = .ok final)
    (total' step' : Nat) (made : List α) :
    ∃ made', run join total' step' flags ⟨queue.pending, queue.nodes, made⟩ =
      .ok ⟨final.pending, final.nodes, made'⟩ := by
  induction flags generalizing step step' queue made with
  | nil =>
    cases ran
    exact ⟨made, rfl⟩
  | cons flag flags ih =>
    obtain ⟨next, taken, ran⟩ := run_cons_eq_ok_iff.mp ran
    obtain ⟨grown, taken⟩ := taken.restarted timeless step' made
    obtain ⟨made', ran⟩ := ih ran (step' + 1) grown
    exact ⟨made', run_cons_eq_ok_iff.mpr ⟨_, taken, ran⟩⟩

end Queue

/-! ## Multiproofs cut in two -/

def Cursors.pending (supply : Supply) (cursors : Cursors) : List Digest :=
  supply.leaves.toList.drop cursors.leaf ++ cursors.hashes.toList.drop cursors.hash

theorem Limits.Within.shrink {limits : Limits} {leaves proof flags fewer less rest : List Value}
    (within : limits.Within leaves proof flags) (leafCount : fewer.length ≤ leaves.length)
    (nodeCount : less.length ≤ proof.length) (flagCount : rest.length ≤ flags.length) :
    limits.Within fewer less rest := by
  unfold Limits.Within at within ⊢
  rw [Limits.check_eq_ok_iff] at within ⊢
  omega

section
variable {builder : HashBuilder} {limits : Limits} {proof flags leaves : List Value} {root : Digest}

/-- Where a multiproof is cut: its first steps succeed, and what waits then is a multiproof with the
nodes and the flags that are left. -/
structure Resumes (builder : HashBuilder) (limits : Limits) (proof flags : List Value)
    (supply : Supply) (root : Digest) (number : Nat) (cursors : Cursors) : Prop where
  reached : Cursors.start.run builder supply 0 ((flags.take number).map Value.truth) = .ok cursors
  resumed : processMultiProof builder limits
    (proof.drop (((flags.take number).map Value.truth).count false)) (flags.drop number)
    ((cursors.pending supply).map .digest) = .ok root
  finished : number = flags.length → cursors.pending supply = [root]

theorem exists_resumes {digests nodes : List Digest} (nonempty : flags ≠ [])
    (denoteLeaves : Denote leaves digests) (denoteProof : Denote proof nodes)
    (accepted : processMultiProof builder limits proof flags leaves = .ok root) (number : Nat) :
    ∃ cursors, Resumes builder limits proof flags ⟨digests.toArray, nodes.toArray⟩ root number
      cursors := by
  obtain ⟨within, made, ran⟩ := (reconstruct_eq_some_iff nonempty denoteLeaves denoteProof).mp
    (processMultiProof_eq_ok_iff.mp accepted)
  have parts : flags.map Value.truth =
      (flags.take number).map Value.truth ++ (flags.drop number).map Value.truth := by
    rw [← List.map_append, List.take_append_drop]
  rw [parts] at ran
  -- The queue is cut, and the cursors show what it holds there.
  obtain ⟨middle, reached, ran⟩ := Queue.run_append_eq_ok_iff.mp ran
  obtain ⟨cursors, went, shows⟩ := (run_start_alike builder digests nodes _).exists_of_ok_right reached
  have waiting : middle.pending = cursors.pending ⟨digests.toArray, nodes.toArray⟩ := shows.pending
  have unread := Queue.nodes_of_run reached
  obtain ⟨fewer, _, _⟩ := Queue.run_lengths reached
  refine ⟨cursors, went, ?_, ?_⟩
  · rw [processMultiProof_eq_ok_iff, ← waiting]
    -- Started again, the steps count from nought and nothing has been made yet.
    obtain ⟨made', again⟩ :=
      Queue.run_restarted (fun _ _ => rfl) ran middle.nodes.length 0 []
    refine reconstruct_of_run ?_ (denote_map_digest middle.pending) ?_ again
    · refine within.shrink ?_ (by simp) (by simp)
      rw [List.length_map, denoteLeaves.length_eq]
      exact Nat.le_of_add_right_le (Nat.le_of_eq fewer)
    · rw [unread]
      exact List.forall₂_drop _ denoteProof
  · rintro rfl
    rw [List.drop_length] at ran
    cases ran
    exact waiting.symm

/-- An accepted multiproof can be taken up after any of its steps: the values that wait then are the
leaves of a multiproof for the same root, and after the last step the root alone waits. -/
theorem processMultiProof_resumes (nonempty : flags ≠ [])
    (accepted : processMultiProof builder limits proof flags leaves = .ok root) :
    ∃ digests nodes, Denote leaves digests ∧ Denote proof nodes ∧ ∀ number ≤ flags.length,
      ∃ cursors, Resumes builder limits proof flags ⟨digests.toArray, nodes.toArray⟩ root number
        cursors := by
  obtain ⟨digests, nodes, denoteLeaves, denoteProof⟩ :=
    exists_denote_of_reconstruct nonempty (processMultiProof_eq_ok_iff.mp accepted)
  refine ⟨digests, nodes, denoteLeaves, denoteProof, fun number _ => ?_⟩
  exact exists_resumes nonempty denoteLeaves denoteProof accepted number

end

/-- Three leaves and one node in three steps: after two of them, two hashes wait that are combined into
the same root. -/
theorem processMultiProof_resumes_three_leaves :
    ∃ root, processMultiProof HashName.keccak256.builder ⟨3, 1, 3⟩ [.digest .zero]
        [.integer 0, .text "yes", .boolean true] [.digest .zero, .digest .zero, .digest .zero] =
          .ok root ∧
      ∃ first second, processMultiProof HashName.keccak256.builder ⟨3, 1, 3⟩ [] [.boolean true]
        [.digest first, .digest second] = .ok root := by
  have leaves : Denote [.digest .zero, .digest .zero, .digest .zero] [.zero, .zero, .zero] :=
    denote_map_digest [.zero, .zero, .zero]
  have proof : Denote [.digest .zero] [.zero] := denote_map_digest [.zero]
  have within : Limits.Within ⟨3, 1, 3⟩ [.digest .zero, .digest .zero, .digest .zero]
      [.digest .zero] [.integer 0, .text "yes", .boolean true] := rfl
  have decides := shapeDecides HashName.keccak256.total leaves proof within
  obtain ⟨root, accepted⟩ := (decides.accepted_iff (by simp) rfl).mpr (by decide)
  obtain ⟨digests, nodes, _, _, resumes⟩ := processMultiProof_resumes (by simp) accepted
  obtain ⟨cursors, _, resumed, _⟩ := resumes 2 (by decide)
  obtain ⟨waiting, _⟩ := counts_of_reconstruct (by simp) (processMultiProof_eq_ok_iff.mp resumed)
  rw [List.length_map] at waiting
  obtain ⟨first, second, pair⟩ := List.length_eq_two.mp waiting.symm
  rw [pair] at resumed
  exact ⟨root, accepted, first, second, resumed⟩

end Inclusion
