import Inclusion.Proofs.Plan
import Inclusion.Proofs.Tree

/-! What an accepted multiproof shows about a committed tree. The steps of the multiproof are followed
from the root down through the tree. Unless a leaf of the tree is itself the hash of a pair, or two
messages collide, they go side by side until the inputs are reached, which thus cut the tree. -/

set_option autoImplicit false

namespace Inclusion

namespace Plan
variable {ι : Type}

theorem gives_step_iff {builder : HashBuilder} {digest : ι → Digest} {number : Nat}
    {first second : Plan ι} {value : Digest} :
    (step number first second).Gives builder digest value ↔
      ∃ left right, first.Gives builder digest left ∧ second.Gives builder digest right ∧
        builder.hashSorted left.octets right.octets = .ok value := by
  constructor
  · intro gives
    unfold Gives eval at gives
    cases left : first.eval builder digest with
    | error failure =>
      rw [left] at gives
      cases gives
    | ok first_value =>
      cases right : second.eval builder digest with
      | error failure =>
        rw [left, right] at gives
        cases gives
      | ok second_value =>
        rw [left, right] at gives
        exact ⟨first_value, second_value, left, right, gives⟩
  · rintro ⟨left, right, first_gives, second_gives, joined⟩
    exact Gives.step number first_gives second_gives joined

def Hashes (plan : Plan ι) (builder : HashBuilder) (digest : ι → Digest) (left right : Digest) :
    Prop :=
  ∃ number first second, (number, first, second) ∈ plan.steps ∧
    first.Gives builder digest left ∧ second.Gives builder digest right

theorem Hashes.mono {plan whole : Plan ι} {builder : HashBuilder} {digest : ι → Digest}
    {left right : Digest} (inside : plan.steps ⊆ whole.steps)
    (hashes : plan.Hashes builder digest left right) : whole.Hashes builder digest left right := by
  obtain ⟨number, first, second, member, gives⟩ := hashes
  exact ⟨number, first, second, inside member, gives⟩

/-- How a plan can come to the value of a tree. -/
inductive Matches (builder : HashBuilder) (h : Octets → Digest) (digest : ι → Digest) (tree : Tree)
    (plan : Plan ι) : Prop where
  | cut (places : List (List Side)) : tree.Cut h places (plan.inputs.map digest) →
      Matches builder h digest tree plan
  | leaf (left right : Digest) : plan.Hashes builder digest left right →
      h (left.pairMessage right) ∈ tree.leaves → Matches builder h digest tree plan
  | collision (left right : Digest) (message : Octets) : plan.Hashes builder digest left right →
      message ∈ tree.messages h → message ≠ left.pairMessage right →
      h message = h (left.pairMessage right) → Matches builder h digest tree plan

variable {builder : HashBuilder} {h : Octets → Digest} {digest : ι → Digest}

theorem Matches.node {left right : Tree} {plan onLeft onRight : Plan ι}
    (leftSteps : onLeft.steps ⊆ plan.steps) (rightSteps : onRight.steps ⊆ plan.steps)
    (inputs : (onLeft.inputs ++ onRight.inputs).Perm plan.inputs)
    (matchLeft : Matches builder h digest left onLeft)
    (matchRight : Matches builder h digest right onRight) :
    Matches builder h digest (.node left right) plan := by
  -- Whatever stands in the way in a subtree does so in the tree.
  cases matchLeft with
  | leaf first second hashes member =>
    exact .leaf first second (hashes.mono leftSteps) (List.mem_append_left _ member)
  | collision first second message hashes member different same =>
    exact .collision first second message (hashes.mono leftSteps)
      (List.mem_cons_of_mem _ (List.mem_append_left _ member)) different same
  | cut places leftCut =>
    cases matchRight with
    | leaf first second hashes member =>
      exact .leaf first second (hashes.mono rightSteps) (List.mem_append_right _ member)
    | collision first second message hashes member different same =>
      exact .collision first second message (hashes.mono rightSteps)
        (List.mem_cons_of_mem _ (List.mem_append_right _ member)) different same
    | cut places' rightCut =>
      have perm := inputs.map digest
      rw [List.map_append] at perm
      obtain ⟨all, cut⟩ := (leftCut.node rightCut).exists_of_perm perm
      exact .cut all cut

theorem matches_of_gives (computes : builder.Computes h) {plan : Plan ι} {tree : Tree}
    (gives : plan.Gives builder digest (tree.value h)) : Matches builder h digest tree plan := by
  induction plan generalizing tree with
  | input place =>
    have same : digest place = tree.value h := Except.ok.inj gives
    apply Matches.cut [[]]
    change tree.Cut h [[]] [digest place]
    rw [same]
    exact .root tree
  | step number first second ihFirst ihSecond =>
    obtain ⟨left, right, first_gives, second_gives, joined⟩ := gives_step_iff.mp gives
    have same : h (left.pairMessage right) = tree.value h :=
      Except.ok.inj ((computes.hashSorted left right).symm.trans joined)
    have hashes : (step number first second).Hashes builder digest left right :=
      ⟨number, first, second, List.mem_cons_self, first_gives, second_gives⟩
    have firstSteps := steps_subset_first number first second
    have secondSteps := steps_subset_second number first second
    cases tree with
    | leaf committed => exact .leaf left right hashes (List.mem_singleton.mpr same)
    | node leftTree rightTree =>
      by_cases message : (leftTree.value h).pairMessage (rightTree.value h) = left.pairMessage right
      · -- One message was hashed, so the two pairs are the same up to their order.
        obtain ⟨rfl, rfl⟩ | ⟨rfl, rfl⟩ := Digest.eq_or_swap_of_pairMessage message
        · exact .node firstSteps secondSteps (.refl _) (ihFirst first_gives) (ihSecond second_gives)
        · exact .node secondSteps firstSteps List.perm_append_comm (ihSecond second_gives)
            (ihFirst first_gives)
      · exact .collision left right _ hashes List.mem_cons_self message same.symm

theorem Followed.draws {plan : Plan ι} {supply : Supply} {flags : List Bool} {root : Digest}
    {cursors : Cursors} (followed : plan.Followed builder supply flags digest root cursors)
    {number : Nat} {first second : Plan ι} (inside : (number, first, second) ∈ plan.steps)
    {left right : Digest} (first_gives : first.Gives builder digest left)
    (second_gives : second.Gives builder digest right) :
    Cursors.Draws builder supply flags number (left, right) ∧
      ∃ made, builder.hashSorted left.octets right.octets = .ok made ∧
        cursors.hashes[number]? = some made := by
  obtain ⟨left', right', made, first_gives', second_gives', draws, joined, found⟩ :=
    followed.steps number first second inside
  obtain rfl : left = left' := Except.ok.inj (first_gives.symm.trans first_gives')
  obtain rfl : right = right' := Except.ok.inj (second_gives.symm.trans second_gives')
  exact ⟨draws, made, joined, found⟩

theorem Followed.exists_draws {plan : Plan ι} {supply : Supply} {flags : List Bool} {root : Digest}
    {cursors : Cursors} (followed : plan.Followed builder supply flags digest root cursors)
    {left right : Digest} (hashes : plan.Hashes builder digest left right) :
    ∃ step made, Cursors.Draws builder supply flags step (left, right) ∧
      builder.hashSorted left.octets right.octets = .ok made ∧ made ∈ cursors.hashes := by
  obtain ⟨number, first, second, inside, first_gives, second_gives⟩ := hashes
  obtain ⟨draws, made, joined, found⟩ := followed.draws inside first_gives second_gives
  exact ⟨number, made, draws, joined, Array.mem_of_getElem? found⟩

end Plan

variable {builder : HashBuilder} {h : Octets → Digest} {limits : Limits}
  {proof flags leaves : List Value} {digests nodes : List Digest} {root : Digest}

/-- Where a root is reconstructed, the steps do what a plan says that the same flags build. -/
theorem followed_of_reconstruct {ι : Type} {digest : ι → Digest} {inner rest : List ι} {plan : Plan ι}
    {plans : List (Plan ι)} (total : builder.Total) (nonempty : flags ≠ [])
    (denoteLeaves : Denote leaves (inner.map digest)) (denoteProof : Denote proof (rest.map digest))
    (made : reconstruct builder limits proof flags leaves = .ok (some root))
    (planned : Queue.run Plan.join rest.length 0 (flags.map Value.truth)
      ⟨inner.map .input, rest.map .input, []⟩ = .ok ⟨[plan], [], plans⟩)
    (built : Plan.Built (inner ++ rest) (flags.map Value.truth).length ⟨[plan], [], plans⟩) :
    ∃ cursors, plan.Followed builder ⟨(inner.map digest).toArray, (rest.map digest).toArray⟩
      (flags.map Value.truth) digest root cursors := by
  have truths : flags.map Value.truth ≠ [] := by simpa using nonempty
  obtain ⟨_, values, ran⟩ := (reconstruct_eq_some_iff nonempty denoteLeaves denoteProof).mp made
  obtain ⟨root', cursors, went, followed⟩ := Plan.exists_followed total digest truths planned built
  rw [List.length_map] at ran
  obtain ⟨rfl, _⟩ : root' = root ∧ cursors.hashes.toList = values := by
    simpa using went.symm.trans ran
  exact ⟨cursors, followed⟩

theorem exists_built_of_reconstruct (total : builder.Total) (nonempty : flags ≠ [])
    (denoteLeaves : Denote leaves digests) (denoteProof : Denote proof nodes)
    (made : reconstruct builder limits proof flags leaves = .ok (some root)) :
    ∃ (plan : Plan Digest) (plans : List (Plan Digest)) (cursors : Cursors),
      Plan.Built (digests ++ nodes) (flags.map Value.truth).length ⟨[plan], [], plans⟩ ∧
      plan.Followed builder ⟨digests.toArray, nodes.toArray⟩ (flags.map Value.truth) id root
        cursors := by
  have truths : flags.map Value.truth ≠ [] := by simpa using nonempty
  obtain ⟨leafCount, nodeCount⟩ := counts_of_reconstruct nonempty made
  rw [denoteLeaves.length_eq] at leafCount
  rw [denoteProof.length_eq] at nodeCount
  obtain ⟨plan, plans, planned, _, built⟩ :=
    Plan.exists_run nodes.length digests nodes truths leafCount nodeCount
  rw [← List.map_id digests] at denoteLeaves
  rw [← List.map_id nodes] at denoteProof
  obtain ⟨cursors, followed⟩ :=
    followed_of_reconstruct total nonempty denoteLeaves denoteProof made planned built
  rw [List.map_id, List.map_id] at followed
  exact ⟨plan, plans, cursors, built, followed⟩

theorem exists_plan_of_reconstruct (total : builder.Total) (nonempty : flags ≠ [])
    (denoteLeaves : Denote leaves digests) (denoteProof : Denote proof nodes)
    (made : reconstruct builder limits proof flags leaves = .ok (some root)) :
    ∃ (plan : Plan Digest) (cursors : Cursors), plan.inputs.Perm (digests ++ nodes) ∧
      plan.Followed builder ⟨digests.toArray, nodes.toArray⟩ (flags.map Value.truth) id root
        cursors := by
  obtain ⟨plan, _, cursors, built, followed⟩ :=
    exists_built_of_reconstruct total nonempty denoteLeaves denoteProof made
  exact ⟨plan, cursors, built.inputs_perm, followed⟩

/-- What can lie behind a multiproof that is accepted for the value of a tree: its leaves and nodes
cut the tree, or a leaf of the tree is a hash that the verification makes, or two messages collide,
one of them hashed for the value of the tree and the other by the verification. -/
inductive Grounds (builder : HashBuilder) (h : Octets → Digest) (tree : Tree)
    (leaves nodes : List Digest) (flags : List Bool) : Prop where
  | cut (places : List (List Side)) : tree.Cut h places (leaves ++ nodes) →
      Grounds builder h tree leaves nodes flags
  | leaf (cursors : Cursors) (leaf : Digest) :
      Cursors.start.run builder ⟨leaves.toArray, nodes.toArray⟩ 0 flags = .ok cursors →
      leaf ∈ cursors.hashes → leaf ∈ tree.leaves → Grounds builder h tree leaves nodes flags
  | collision (step : Nat) (left right : Digest) (first second : Octets) :
      first ∈ tree.messages h →
      Cursors.Draws builder ⟨leaves.toArray, nodes.toArray⟩ flags step (left, right) →
      second = left.pairMessage right →
      first.length = 2 * digestWidth → second.length = 2 * digestWidth →
      first ≠ second → h first = h second → Grounds builder h tree leaves nodes flags

/-- A multiproof is accepted for the value of a tree only on these grounds. -/
theorem grounds_of_verifyMultiProof (computes : builder.Computes h) (tree : Tree) {root : Value}
    (denoteLeaves : Denote leaves digests) (denoteProof : Denote proof nodes)
    (committed : root.toDigest = .ok (tree.value h))
    (accepted : (verifyMultiProof builder limits proof flags root leaves).result = .ok true) :
    Grounds builder h tree digests nodes (flags.map Value.truth) := by
  obtain ⟨computed, made, read⟩ := verifyMultiProof_eq_true_iff.mp accepted
  obtain rfl : tree.value h = computed := Except.ok.inj (committed.symm.trans read)
  by_cases none : flags = []
  · -- Without flags the sole value is that of the whole tree.
    subst none
    rw [reconstruct_no_flags (within_of_reconstruct made) denoteLeaves denoteProof] at made
    apply Grounds.cut [[]]
    match digests ++ nodes, made with
    | [sole], made =>
      obtain rfl : sole = tree.value h := by simpa using made
      exact .root tree
  · obtain ⟨plan, cursors, inputs, followed⟩ :=
      exists_plan_of_reconstruct computes.total none denoteLeaves denoteProof made
    have matched : Plan.Matches builder h id tree plan := Plan.matches_of_gives computes followed.root
    cases matched with
    | cut places cut =>
      rw [List.map_id] at cut
      obtain ⟨places, cut⟩ := cut.exists_of_perm inputs
      exact .cut places cut
    | leaf left right hashes member =>
      obtain ⟨step, made, draws, joined, found⟩ := followed.exists_draws hashes
      obtain rfl := Except.ok.inj ((computes.hashSorted left right).symm.trans joined)
      exact .leaf cursors _ followed.ran found member
    | collision left right message hashes member different same =>
      obtain ⟨step, made, draws, joined, found⟩ := followed.exists_draws hashes
      exact .collision step left right message _ member draws rfl
        (Tree.length_of_mem_messages member) (Digest.length_pairMessage left right) different same

/-- The grounds on which a leaf is accepted next to its sibling. -/
theorem grounds_of_one_sibling :
    let h := BlockHash.keccak256.digestOf Keccak.length_output
    let tree := Tree.node (.leaf .zero) (.leaf (h []))
    (verifyMultiProof HashName.keccak256.builder ⟨1, 1, 1⟩ [.digest (h [])] [.null]
      (.digest (tree.value h)) [.digest .zero]).result = .ok true ∧
    Grounds HashName.keccak256.builder h tree [.zero] [h []] [false] := by
  intro h tree
  have computes : HashName.keccak256.builder.Computes h :=
    HashBuilder.computes_sealing Keccak.length_output
  have leaves : Denote [.digest .zero] [.zero] := denote_map_digest [.zero]
  have proof : Denote [.digest (h [])] [h []] := denote_map_digest [h []]
  have accepted : (verifyMultiProof HashName.keccak256.builder ⟨1, 1, 1⟩ [.digest (h [])] [.null]
      (.digest (tree.value h)) [.digest .zero]).result = .ok true := by
    refine verifyMultiProof_eq_true_iff.mpr ⟨tree.value h, ?_, rfl⟩
    rw [reconstruct_eq_some_iff (by simp) leaves proof]
    refine ⟨rfl, [tree.value h], Queue.run_cons_of_step (.node ?_)⟩
    exact computes.hashSorted .zero (h [])
  exact ⟨accepted, grounds_of_verifyMultiProof computes tree leaves proof rfl accepted⟩

end Inclusion
