import Inclusion.Proofs.Climb
import Inclusion.Proofs.Membership

/-! Two runs of one shape over inputs that differ at one place. Every input is read once, so the change
goes up along one branch, and at every step just one of the two digests is another. It is seen at the
root, unless some step hashes two different messages to one digest. -/

set_option autoImplicit false

namespace Inclusion

def changes (pairs : List (Digest × Digest)) : Nat := pairs.countP fun pair => pair.1 ≠ pair.2

@[simp] theorem changes_append (first second : List (Digest × Digest)) :
    changes (first ++ second) = changes first + changes second := List.countP_append

theorem changes_cons (pair : Digest × Digest) (pairs : List (Digest × Digest)) :
    changes (pair :: pairs) = changes [pair] + changes pairs := changes_append [pair] pairs

@[simp] theorem changes_same (digest : Digest) : changes [(digest, digest)] = 0 := by simp [changes]

theorem changes_of_ne {first second : Digest} (different : first ≠ second) :
    changes [(first, second)] = 1 := by simp [changes, different]

theorem ne_of_changes {first second : Digest} (changed : changes [(first, second)] = 1) :
    first ≠ second := by
  rintro rfl
  simp at changed

def DifferOnce (first second : List Digest) : Prop :=
  first.length = second.length ∧ changes (first.zip second) = 1

namespace Digest
variable {h : Octets → Digest} {first second third fourth : Digest}

theorem collide_or_changes_of_ne
    (different : first.pairMessage second ≠ third.pairMessage fourth) :
    (first.pairMessage second).Collide h (third.pairMessage fourth) ∨
      changes [(h (first.pairMessage second), h (third.pairMessage fourth))] = 1 := by
  by_cases same : h (first.pairMessage second) = h (third.pairMessage fourth)
  · exact .inl ⟨length_pairMessage _ _, length_pairMessage _ _, different, same⟩
  · exact .inr (changes_of_ne same)

/-- If at most one digest of a pair is changed, the hash changes just as the pair does. -/
theorem collide_or_changes (few : changes [(first, third)] + changes [(second, fourth)] ≤ 1) :
    (first.pairMessage second).Collide h (third.pairMessage fourth) ∨
      changes [(h (first.pairMessage second), h (third.pairMessage fourth))] =
        changes [(first, third)] + changes [(second, fourth)] := by
  by_cases left : first = third
  · subst left
    by_cases right : second = fourth
    · subst right
      exact .inr (by simp)
    · have message : first.pairMessage second ≠ first.pairMessage fourth := by
        rw [pairMessage_comm first, pairMessage_comm first]
        exact pairMessage_ne right first
      rw [changes_same, changes_of_ne right]
      exact collide_or_changes_of_ne message
  · by_cases right : second = fourth
    · subst right
      rw [changes_same, changes_of_ne left]
      exact collide_or_changes_of_ne (pairMessage_ne left second)
    · rw [changes_of_ne left, changes_of_ne right] at few
      omega

end Digest

namespace Plan
variable {builder : HashBuilder} {h : Octets → Digest}

/-- At some step of a plan the messages of the two runs collide. -/
def Clashes (plan : Plan (Digest × Digest)) (builder : HashBuilder) (h : Octets → Digest) : Prop :=
  ∃ number first second left right left' right', (number, first, second) ∈ plan.steps ∧
    first.Gives builder Prod.fst left ∧ second.Gives builder Prod.fst right ∧
    first.Gives builder Prod.snd left' ∧ second.Gives builder Prod.snd right' ∧
    (left.pairMessage right).Collide h (left'.pairMessage right')

theorem Clashes.mono {plan whole : Plan (Digest × Digest)} (steps : plan.steps ⊆ whole.steps)
    (clashes : plan.Clashes builder h) : whole.Clashes builder h := by
  obtain ⟨number, first, second, left, right, left', right', member, collide⟩ := clashes
  exact ⟨number, first, second, left, right, left', right', steps member, collide⟩

theorem clashes_or_changes (computes : builder.Computes h) {plan : Plan (Digest × Digest)}
    (few : changes plan.inputs ≤ 1) {value value' : Digest} (gives : plan.Gives builder Prod.fst value)
    (gives' : plan.Gives builder Prod.snd value') :
    plan.Clashes builder h ∨ changes [(value, value')] = changes plan.inputs := by
  induction plan generalizing value value' with
  | input pair =>
    obtain rfl := Except.ok.inj gives
    obtain rfl := Except.ok.inj gives'
    exact .inr rfl
  | step number first second ihFirst ihSecond =>
    obtain ⟨left, right, first_gives, second_gives, joined⟩ := gives_step_iff.mp gives
    obtain ⟨left', right', first_gives', second_gives', joined'⟩ := gives_step_iff.mp gives'
    obtain rfl := Except.ok.inj ((computes.hashSorted left right).symm.trans joined)
    obtain rfl := Except.ok.inj ((computes.hashSorted left' right').symm.trans joined')
    rw [inputs, changes_append] at few ⊢
    obtain clash | onLeft := ihFirst (by omega) first_gives first_gives'
    · exact .inl (clash.mono (steps_subset_first number first second))
    obtain clash | onRight := ihSecond (by omega) second_gives second_gives'
    · exact .inl (clash.mono (steps_subset_second number first second))
    rw [← onLeft, ← onRight] at few ⊢
    obtain collide | kept := Digest.collide_or_changes few
    · exact .inl ⟨number, first, second, left, right, left', right', List.mem_cons_self, first_gives,
        second_gives, first_gives', second_gives', collide⟩
    · exact .inr kept

end Plan

namespace Digest
variable (h : Octets → Digest)

theorem ascend_collide_or_changes {pairs : List (Digest × Digest)} {first second : Digest}
    (few : changes ((first, second) :: pairs) ≤ 1) :
    (∃ step one other, pairs[step]? = some (one, other) ∧
      ((first.ascend h ((pairs.map Prod.fst).take step)).pairMessage one).Collide h
        ((second.ascend h ((pairs.map Prod.snd).take step)).pairMessage other)) ∨
      changes [(first.ascend h (pairs.map Prod.fst), second.ascend h (pairs.map Prod.snd))] =
        changes ((first, second) :: pairs) := by
  induction pairs generalizing first second with
  | nil => exact .inr rfl
  | cons pair pairs ih =>
    obtain ⟨one, other⟩ := pair
    have apart : changes ((first, second) :: (one, other) :: pairs) =
        changes [(first, second)] + changes [(one, other)] + changes pairs := by
      rw [changes_cons, changes_cons (one, other), Nat.add_assoc]
    rw [apart] at few ⊢
    obtain collide | kept := collide_or_changes (Nat.le_trans (Nat.le_add_right _ _) few)
    · exact .inl ⟨0, one, other, rfl, collide⟩
    · -- The digests that this step makes carry the change on.
      rw [← kept, ← changes_cons] at few ⊢
      obtain ⟨step, one', other', found, collide⟩ | carried := ih few
      · exact .inl ⟨step + 1, one', other', found, collide⟩
      · exact .inr carried

end Digest

def Cursors.Clash (builder : HashBuilder) (h : Octets → Digest) (first second : Supply)
    (flags : List Bool) : Prop :=
  ∃ step left right left' right', Draws builder first flags step (left, right) ∧
    Draws builder second flags step (left', right') ∧
    (left.pairMessage right).Collide h (left'.pairMessage right')

def Meets.Clash (builder : HashBuilder) (h : Octets → Digest) (proof proof' : List Value)
    (leaf leaf' : Value) : Prop :=
  ∃ step computed sibling computed' sibling', Meets builder proof leaf step (computed, sibling) ∧
    Meets builder proof' leaf' step (computed', sibling') ∧
    (computed.pairMessage sibling).Collide h (computed'.pairMessage sibling')

section
variable {builder : HashBuilder} {limits limits' : Limits}
  {flags proof proof' leaves leaves' : List Value}
  {digests digests' nodes nodes' : List Digest} {root root' : Digest}
  (denoteLeaves : Denote leaves digests) (denoteProof : Denote proof nodes)
  (denoteLeaves' : Denote leaves' digests') (denoteProof' : Denote proof' nodes')
  (leafCount : leaves.length = leaves'.length) (nodeCount : proof.length = proof'.length)
  (made : reconstruct builder limits proof flags leaves = .ok (some root))
  (made' : reconstruct builder limits' proof' flags leaves' = .ok (some root'))
include denoteLeaves denoteProof denoteLeaves' denoteProof' leafCount nodeCount made made'

/-- One plan over pairs of digests says what two runs with the same flags do. -/
theorem exists_common_plan (total : builder.Total) (nonempty : flags ≠ []) :
    ∃ (plan : Plan (Digest × Digest)) (cursors cursors' : Cursors),
      plan.inputs.Perm ((digests ++ nodes).zip (digests' ++ nodes')) ∧
      plan.Followed builder ⟨digests.toArray, nodes.toArray⟩ (flags.map Value.truth) Prod.fst root
        cursors ∧
      plan.Followed builder ⟨digests'.toArray, nodes'.toArray⟩ (flags.map Value.truth) Prod.snd root'
        cursors' := by
  have truths : flags.map Value.truth ≠ [] := by simpa using nonempty
  rw [denoteLeaves.length_eq, denoteLeaves'.length_eq] at leafCount
  rw [denoteProof.length_eq, denoteProof'.length_eq] at nodeCount
  obtain ⟨leafCounted, nodeCounted⟩ := counts_of_reconstruct nonempty made
  rw [denoteLeaves.length_eq] at leafCounted
  rw [denoteProof.length_eq] at nodeCounted
  obtain ⟨plan, plans, planned, _, built⟩ :=
    Plan.exists_run (nodes.zip nodes').length (digests.zip digests') (nodes.zip nodes') truths
      (by simpa [← leafCount] using leafCounted) (by simpa [← nodeCount] using nodeCounted)
  have inner := List.map_fst_zip (Nat.le_of_eq leafCount)
  have inner' := List.map_snd_zip (Nat.le_of_eq leafCount.symm)
  have rest := List.map_fst_zip (Nat.le_of_eq nodeCount)
  have rest' := List.map_snd_zip (Nat.le_of_eq nodeCount.symm)
  obtain ⟨cursors, followed⟩ := followed_of_reconstruct total nonempty (inner.symm ▸ denoteLeaves)
    (rest.symm ▸ denoteProof) made planned built
  obtain ⟨cursors', followed'⟩ := followed_of_reconstruct total nonempty
    (inner'.symm ▸ denoteLeaves') (rest'.symm ▸ denoteProof') made' planned built
  rw [inner, rest] at followed
  rw [inner', rest'] at followed'
  refine ⟨plan, cursors, cursors', ?_, followed, followed'⟩
  rw [List.zip_append leafCount]
  exact built.inputs_perm

theorem ne_or_clash_of_reconstruct {h : Octets → Digest} (computes : builder.Computes h)
    (differ : DifferOnce (digests ++ nodes) (digests' ++ nodes')) :
    root ≠ root' ∨ Cursors.Clash builder h ⟨digests.toArray, nodes.toArray⟩
      ⟨digests'.toArray, nodes'.toArray⟩ (flags.map Value.truth) := by
  obtain ⟨_, once⟩ := differ
  by_cases none : flags = []
  · -- Without flags the two sole values are the roots.
    subst none
    rw [append_eq_of_reconstruct denoteLeaves denoteProof made,
      append_eq_of_reconstruct denoteLeaves' denoteProof' made'] at once
    exact .inl (ne_of_changes once)
  · obtain ⟨plan, cursors, cursors', inputs, followed, followed'⟩ :=
      exists_common_plan denoteLeaves denoteProof denoteLeaves' denoteProof' leafCount nodeCount made
        made' computes.total none
    have changed : changes plan.inputs = 1 := (inputs.countP_eq _).trans once
    obtain clash | carried :=
      Plan.clashes_or_changes computes (Nat.le_of_eq changed) followed.root followed'.root
    · obtain ⟨number, first, second, left, right, left', right', inside, first_gives, second_gives,
        first_gives', second_gives', collide⟩ := clash
      exact .inr ⟨number, left, right, left', right',
        (followed.draws inside first_gives second_gives).1,
        (followed'.draws inside first_gives' second_gives').1, collide⟩
    · exact .inl (ne_of_changes (carried.trans changed))

end

theorem ne_or_clash_of_processProof {builder : HashBuilder} {h : Octets → Digest}
    (computes : builder.Computes h) {proof proof' : List Value} {leaf leaf' : Value}
    {digest digest' root root' : Digest} {siblings siblings' : List Digest}
    (read : leaf.toDigest = .ok digest) (read' : leaf'.toDigest = .ok digest')
    (denote : Denote proof siblings) (denote' : Denote proof' siblings')
    (differ : DifferOnce (digest :: siblings) (digest' :: siblings'))
    (made : processProof builder proof leaf = .ok root)
    (made' : processProof builder proof' leaf' = .ok root') :
    root ≠ root' ∨ Meets.Clash builder h proof proof' leaf leaf' := by
  obtain ⟨length, once⟩ := differ
  have count : siblings.length = siblings'.length := Nat.succ.inj length
  have changed : changes ((digest, digest') :: siblings.zip siblings') = 1 := once
  rw [processProof_eq computes read denote] at made
  rw [processProof_eq computes read' denote'] at made'
  obtain rfl := Except.ok.inj made
  obtain rfl := Except.ok.inj made'
  have climbs := Digest.ascend_collide_or_changes h (Nat.le_of_eq changed)
  rw [List.map_fst_zip (Nat.le_of_eq count), List.map_snd_zip (Nat.le_of_eq count.symm)] at climbs
  obtain ⟨step, one, other, found, collide⟩ | carried := climbs
  · obtain ⟨there, there'⟩ := List.getElem?_zip_eq_some.mp found
    exact .inr ⟨step, _, one, _, other, meets_of_getElem? computes read denote there,
      meets_of_getElem? computes read' denote' there', collide⟩
  · exact .inl (ne_of_changes (carried.trans changed))

/-- Change one input of a multiproof or of a single proof: the root is another, or some step of the
two runs hashes two different messages to one digest. -/
theorem change_shows_or_clashes {builder : HashBuilder} {h : Octets → Digest}
    (computes : builder.Computes h) :
    (∀ (limits limits' : Limits) (flags proof proof' leaves leaves' : List Value)
        (digests digests' nodes nodes' : List Digest) (root root' : Digest),
      Denote leaves digests → Denote proof nodes → Denote leaves' digests' → Denote proof' nodes' →
      leaves.length = leaves'.length → proof.length = proof'.length →
      DifferOnce (digests ++ nodes) (digests' ++ nodes') →
      processMultiProof builder limits proof flags leaves = .ok root →
      processMultiProof builder limits' proof' flags leaves' = .ok root' →
      root ≠ root' ∨ Cursors.Clash builder h ⟨digests.toArray, nodes.toArray⟩
        ⟨digests'.toArray, nodes'.toArray⟩ (flags.map Value.truth)) ∧
    ∀ (proof proof' : List Value) (leaf leaf' : Value) (digest digest' root root' : Digest)
        (siblings siblings' : List Digest),
      leaf.toDigest = .ok digest → leaf'.toDigest = .ok digest' → Denote proof siblings →
      Denote proof' siblings' → DifferOnce (digest :: siblings) (digest' :: siblings') →
      processProof builder proof leaf = .ok root → processProof builder proof' leaf' = .ok root' →
      root ≠ root' ∨ Meets.Clash builder h proof proof' leaf leaf' := by
  constructor
  · intro limits limits' flags proof proof' leaves leaves' digests digests' nodes nodes' root root'
      denoteLeaves denoteProof denoteLeaves' denoteProof' leafCount nodeCount differ made made'
    exact ne_or_clash_of_reconstruct denoteLeaves denoteProof denoteLeaves' denoteProof' leafCount
      nodeCount (processMultiProof_eq_ok_iff.mp made) (processMultiProof_eq_ok_iff.mp made') computes
      differ
  · intro proof proof' leaf leaf' digest digest' root root' siblings siblings' read read' denote
      denote' differ made made'
    exact ne_or_clash_of_processProof computes read read' denote denote' differ made made'

/-- The node beside one leaf is changed, in a multiproof of one step and in a single proof. -/
theorem change_shows_or_clashes_one_step :
    let h := BlockHash.sha256.digestOf Sha256.length_output
    let other : Digest := ⟨List.replicate digestWidth 1, List.length_replicate⟩
    let builder := HashName.sha256.builder
    DifferOnce [.zero, .zero] [.zero, other] ∧
      (∃ root root', processMultiProof builder ⟨1, 1, 1⟩ [.digest .zero] [.null] [.digest .zero] =
          .ok root ∧
        processMultiProof builder ⟨1, 1, 1⟩ [.digest other] [.null] [.digest .zero] = .ok root' ∧
        (root ≠ root' ∨ Cursors.Clash builder h ⟨#[.zero], #[.zero]⟩ ⟨#[.zero], #[other]⟩ [false])) ∧
      ∃ root root', processProof builder [.digest .zero] (.digest .zero) = .ok root ∧
        processProof builder [.digest other] (.digest .zero) = .ok root' ∧
        (root ≠ root' ∨
          Meets.Clash builder h [.digest .zero] [.digest other] (.digest .zero) (.digest .zero)) := by
  intro h other builder
  have computes : builder.Computes h := HashBuilder.computes_ofBlockHash Sha256.length_output
  have differ : DifferOnce [.zero, .zero] [.zero, other] := ⟨rfl, by decide⟩
  have read (digest : Digest) : Denote [.digest digest] [digest] := denote_map_digest [digest]
  have within (node : Digest) : Limits.Within ⟨1, 1, 1⟩ [.digest .zero] [.digest node] [.null] := rfl
  obtain ⟨multi, single⟩ := change_shows_or_clashes computes
  refine ⟨differ, ?_, ?_⟩
  · obtain ⟨root, made⟩ :=
      (exists_root_iff computes.total (within .zero) (read .zero) (read .zero) (by simp) rfl).mpr rfl
    obtain ⟨root', made'⟩ :=
      (exists_root_iff computes.total (within other) (read .zero) (read other) (by simp) rfl).mpr rfl
    exact ⟨root, root', made, made', multi _ _ _ _ _ _ _ _ _ _ _ _ _ (read .zero) (read .zero)
      (read .zero) (read other) rfl rfl differ made made'⟩
  · have leaf : (Value.digest .zero).toDigest = .ok .zero := rfl
    have made := processProof_eq computes leaf (read .zero)
    have made' := processProof_eq computes leaf (read other)
    exact ⟨_, _, made, made', single _ _ _ _ _ _ _ _ _ _ rfl rfl (read .zero) (read other) differ made
      made'⟩

end Inclusion
