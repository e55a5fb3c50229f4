import Inclusion.Proofs.Climb
import Inclusion.Proofs.Membership

/-! Single proofs inside a multiproof. From every input of a plan a branch leads up to its root, and the
siblings on it are other inputs or hashes that the plan makes. So whatever an accepted multiproof is
given has a single proof for the same root, no longer than the multiproof has steps. -/

set_option autoImplicit false

namespace Inclusion

namespace Plan
variable {ι : Type} {builder : HashBuilder} {digest : ι → Digest}

def Knows (plan : Plan ι) (builder : HashBuilder) (digest : ι → Digest) (known : Digest) : Prop :=
  (∃ place ∈ plan.inputs, digest place = known) ∨
    ∃ left right, plan.Hashes builder digest left right ∧
      builder.hashSorted left.octets right.octets = .ok known

theorem Knows.mono {plan whole : Plan ι} {known : Digest} (inputs : plan.inputs ⊆ whole.inputs)
    (steps : plan.steps ⊆ whole.steps) (knows : plan.Knows builder digest known) :
    whole.Knows builder digest known := by
  obtain ⟨place, member, same⟩ | ⟨left, right, hashes, joined⟩ := knows
  · exact .inl ⟨place, inputs member, same⟩
  · exact .inr ⟨left, right, hashes.mono steps, joined⟩

theorem Gives.knows {plan : Plan ι} {value : Digest} (gives : plan.Gives builder digest value) :
    plan.Knows builder digest value := by
  cases plan with
  | input place => exact .inl ⟨place, List.mem_singleton_self place, Except.ok.inj gives⟩
  | step number first second =>
    obtain ⟨left, right, first_gives, second_gives, joined⟩ := gives_step_iff.mp gives
    exact .inr ⟨left, right, ⟨number, first, second, List.mem_cons_self, first_gives, second_gives⟩,
      joined⟩

/-- The siblings lead from a digest to the value of a plan, and the plan knows all of them. -/
structure Branch (plan : Plan ι) (builder : HashBuilder) (digest : ι → Digest) (siblings : List Digest)
    (start value : Digest) : Prop where
  climbs : climb builder (siblings.map .digest) start = .ok value
  short : siblings.length ≤ plan.steps.length
  known : ∀ sibling ∈ siblings, plan.Knows builder digest sibling

theorem Branch.grow {part whole : Plan ι} {siblings : List Digest} {start value other top : Digest}
    (branch : part.Branch builder digest siblings start value) (inputs : part.inputs ⊆ whole.inputs)
    (steps : part.steps ⊆ whole.steps) (longer : part.steps.length < whole.steps.length)
    (knows : whole.Knows builder digest other)
    (joined : builder.hashSorted value.octets other.octets = .ok top) :
    whole.Branch builder digest (siblings ++ [other]) start top where
  climbs := by
    rw [List.map_append]
    exact climb_concat branch.climbs rfl joined
  short := by
    have short := branch.short
    rw [List.length_append, List.length_singleton]
    omega
  known sibling member := by
    rcases List.mem_append.mp member with below | last
    · exact (branch.known sibling below).mono inputs steps
    · exact List.mem_singleton.mp last ▸ knows

theorem exists_branch {plan : Plan ι} {place : ι} (member : place ∈ plan.inputs) {value : Digest}
    (gives : plan.Gives builder digest value) :
    ∃ siblings, plan.Branch builder digest siblings (digest place) value := by
  induction plan generalizing value with
  | input only =>
    obtain rfl := List.mem_singleton.mp member
    obtain rfl := Except.ok.inj gives
    exact ⟨[], rfl, Nat.zero_le _, by simp⟩
  | step number first second ihFirst ihSecond =>
    obtain ⟨left, right, first_gives, second_gives, joined⟩ := gives_step_iff.mp gives
    have firstInputs := inputs_subset_first number first second
    have secondInputs := inputs_subset_second number first second
    have firstSteps := steps_subset_first number first second
    have secondSteps := steps_subset_second number first second
    rcases List.mem_append.mp member with inFirst | inSecond
    · obtain ⟨siblings, branch⟩ := ihFirst inFirst first_gives
      refine ⟨siblings ++ [right], branch.grow firstInputs firstSteps ?_ ?_ joined⟩
      · rw [length_steps_step]
        omega
      · exact second_gives.knows.mono secondInputs secondSteps
    · -- The step has the other operand first, which makes no difference to the hash.
      obtain ⟨siblings, branch⟩ := ihSecond inSecond second_gives
      rw [builder.hashSorted_comm] at joined
      refine ⟨siblings ++ [left], branch.grow secondInputs secondSteps ?_ ?_ joined⟩
      · rw [length_steps_step]
        omega
      · exact first_gives.knows.mono firstInputs firstSteps

end Plan

structure Gathered (leaves nodes : List Digest) (flags : List Value) (cursors : Cursors)
    (siblings : List Digest) : Prop where
  short : siblings.length ≤ flags.length
  known : ∀ sibling ∈ siblings, sibling ∈ leaves ++ nodes ∨ sibling ∈ cursors.hashes

section
variable {builder : HashBuilder} (total : builder.Total) {limits : Limits}
  {proof flags leaves : List Value} {digests nodes : List Digest}
  (denoteLeaves : Denote leaves digests) (denoteProof : Denote proof nodes)
include total denoteLeaves denoteProof

theorem exists_siblings_of_reconstruct {root : Digest}
    (made : reconstruct builder limits proof flags leaves = .ok (some root)) :
    ∃ cursors, Cursors.start.run builder ⟨digests.toArray, nodes.toArray⟩ 0 (flags.map Value.truth) =
        .ok cursors ∧
      ∀ value ∈ leaves ++ proof, ∃ siblings, Gathered digests nodes flags cursors siblings ∧
        processProof builder (siblings.map .digest) value = .ok root := by
  have denote : Denote (leaves ++ proof) (digests ++ nodes) := List.rel_append denoteLeaves denoteProof
  by_cases none : flags = []
  · -- Without flags the sole value is the root, and no sibling is asked for.
    subst none
    refine ⟨.start, rfl, fun value member => ⟨[], ⟨Nat.le_refl _, by simp⟩, ?_⟩⟩
    obtain ⟨digest, inside, read⟩ := denote.exists_of_mem member
    rw [append_eq_of_reconstruct denoteLeaves denoteProof made] at inside
    obtain rfl := List.mem_singleton.mp inside
    exact processProof_of_read [] read
  · obtain ⟨plan, _, cursors, built, followed⟩ :=
      exists_built_of_reconstruct total none denoteLeaves denoteProof made
    refine ⟨cursors, followed.ran, fun value member => ?_⟩
    obtain ⟨digest, inside, read⟩ := denote.exists_of_mem member
    obtain ⟨siblings, branch⟩ :=
      Plan.exists_branch (built.inputs_perm.mem_iff.mpr inside) followed.root
    refine ⟨siblings, ⟨?_, fun sibling among => ?_⟩, ?_⟩
    · have count := built.numbers_perm.length_eq
      rw [Plan.numbers, List.length_map, List.length_range, List.length_map] at count
      exact count ▸ branch.short
    · obtain ⟨place, given, rfl⟩ | ⟨left, right, hashes, joined⟩ := branch.known sibling among
      · exact .inl (built.inputs_perm.mem_iff.mp given)
      · obtain ⟨_, made, _, joined', found⟩ := followed.exists_draws hashes
        obtain rfl := Except.ok.inj (joined.symm.trans joined')
        exact .inr found
    · rw [processProof_of_read _ read]
      exact branch.climbs

/-- Every leaf and every node of a multiproof that is processed to a root has a single proof for this
root, from siblings that the multiproof is given or makes. So a leaf is accepted in a batch only if
it is accepted alone, too. -/
theorem exists_single_proof :
    (∀ root, processMultiProof builder limits proof flags leaves = .ok root →
      ∃ cursors, Cursors.start.run builder ⟨digests.toArray, nodes.toArray⟩ 0
          (flags.map Value.truth) = .ok cursors ∧
        ∀ value ∈ leaves ++ proof, ∃ siblings, Gathered digests nodes flags cursors siblings ∧
          processProof builder (siblings.map .digest) value = .ok root) ∧
      ∀ root : Value, (verifyMultiProof builder limits proof flags root leaves).result = .ok true →
        ∃ cursors, Cursors.start.run builder ⟨digests.toArray, nodes.toArray⟩ 0
            (flags.map Value.truth) = .ok cursors ∧
          ∀ leaf ∈ leaves, ∃ siblings, Gathered digests nodes flags cursors siblings ∧
            verifyProof builder (siblings.map .digest) root leaf = .ok true := by
  constructor
  · intro root made
    exact exists_siblings_of_reconstruct total denoteLeaves denoteProof
      (processMultiProof_eq_ok_iff.mp made)
  · intro root accepted
    obtain ⟨computed, made, read⟩ := verifyMultiProof_eq_true_iff.mp accepted
    obtain ⟨cursors, ran, single⟩ :=
      exists_siblings_of_reconstruct total denoteLeaves denoteProof made
    refine ⟨cursors, ran, fun leaf member => ?_⟩
    obtain ⟨siblings, gathered, processed⟩ := single leaf (List.mem_append_left _ member)
    exact ⟨siblings, gathered, (verifyProof_eq_true_iff read).mpr processed⟩

end

/-- Two leaves that are combined first and then hashed with a node, in single proofs. -/
theorem exists_single_proof_two_leaves :
    let supplied := [Digest.zero, .zero]
    ∃ root cursors, (verifyMultiProof HashName.sha3.builder ⟨2, 1, 2⟩ [.digest .zero]
        [.boolean true, .null] (.digest root) (supplied.map .digest)).result = .ok true ∧
      ∀ leaf ∈ supplied.map Value.digest, ∃ siblings,
        Gathered supplied [.zero] [.boolean true, .null] cursors siblings ∧
        verifyProof HashName.sha3.builder (siblings.map .digest) (.digest root) leaf = .ok true := by
  intro supplied
  have builds := HashName.sha3.total
  have leaves : Denote (supplied.map .digest) supplied := denote_map_digest supplied
  have proof : Denote [.digest .zero] [.zero] := denote_map_digest [.zero]
  have within : Limits.Within ⟨2, 1, 2⟩ (supplied.map .digest) [.digest .zero]
      [.boolean true, .null] := rfl
  obtain ⟨root, made⟩ := (exists_root_iff builds within leaves proof (by simp) rfl).mpr rfl
  have accepted : (verifyMultiProof HashName.sha3.builder ⟨2, 1, 2⟩ [.digest .zero]
      [.boolean true, .null] (.digest root) (supplied.map .digest)).result = .ok true :=
    verifyMultiProof_eq_true_iff.mpr ⟨root, processMultiProof_eq_ok_iff.mp made, rfl⟩
  obtain ⟨cursors, _, single⟩ := (exists_single_proof builds leaves proof).2 _ accepted
  exact ⟨root, cursors, accepted, single⟩

end Inclusion
