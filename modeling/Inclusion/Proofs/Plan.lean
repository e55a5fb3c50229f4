import Inclusion.Proofs.Shape
import Mathlib.Data.List.FinRange
import Mathlib.Data.List.Nodup

/-! Plans of combination. Where the flags fit the numbers of leaves and nodes, the steps of a multiproof
build one tree over the places of its inputs: each place occurs in it once, each step once, and the
root that is reconstructed is what this tree gives for the digests at those places. -/

set_option autoImplicit false

namespace Inclusion

/-- Which values are combined: inputs at their places, and what numbered steps make of two others. -/
inductive Plan (ι : Type) where
  | input (place : ι)
  | step (number : Nat) (first second : Plan ι)

namespace Plan
variable {ι : Type}

def inputs : Plan ι → List ι
  | input place => [place]
  | step _ first second => first.inputs ++ second.inputs

def steps : Plan ι → List (Nat × Plan ι × Plan ι)
  | input _ => []
  | step number first second => (number, first, second) :: (first.steps ++ second.steps)

def numbers (plan : Plan ι) : List Nat := plan.steps.map Prod.fst

def number? : Plan ι → Option Nat
  | input _ => none
  | step number _ _ => some number

def reads (plan : Plan ι) : List Nat :=
  plan.steps.flatMap fun (_, first, second) => first.number?.toList ++ second.number?.toList

def eval (builder : HashBuilder) (digest : ι → Digest) : Plan ι → Except Failure Digest
  | input place => .ok (digest place)
  | step _ first second => do
    let first ← first.eval builder digest
    let second ← second.eval builder digest
    builder.hashSorted first.octets second.octets

@[simp] theorem numbers_input (place : ι) : (input place).numbers = [] := rfl

@[simp] theorem numbers_step (number : Nat) (first second : Plan ι) :
    (step number first second).numbers = number :: (first.numbers ++ second.numbers) := by
  simp [numbers, steps]

@[simp] theorem reads_step (number : Nat) (first second : Plan ι) :
    (step number first second).reads =
      first.number?.toList ++ second.number?.toList ++ (first.reads ++ second.reads) := by
  simp [reads, steps]

theorem length_steps_step (number : Nat) (first second : Plan ι) :
    (step number first second).steps.length = first.steps.length + second.steps.length + 1 := by
  rw [steps, List.length_cons, List.length_append]

theorem inputs_subset_first (number : Nat) (first second : Plan ι) :
    first.inputs ⊆ (step number first second).inputs := List.subset_append_left _ _

theorem inputs_subset_second (number : Nat) (first second : Plan ι) :
    second.inputs ⊆ (step number first second).inputs := List.subset_append_right _ _

theorem steps_subset_first (number : Nat) (first second : Plan ι) :
    first.steps ⊆ (step number first second).steps :=
  List.subset_cons_of_subset _ (List.subset_append_left _ _)

theorem steps_subset_second (number : Nat) (first second : Plan ι) :
    second.steps ⊆ (step number first second).steps :=
  List.subset_cons_of_subset _ (List.subset_append_right _ _)

/-- Every step of a plan is its last one or is read once. -/
theorem numbers_perm (plan : Plan ι) : plan.numbers.Perm (plan.number?.toList ++ plan.reads) := by
  induction plan with
  | input place => exact .refl _
  | step number first second ihFirst ihSecond =>
    rw [numbers_step, reads_step]
    refine List.Perm.cons number ((ihFirst.append ihSecond).trans ?_)
    rw [List.append_assoc, List.append_assoc]
    apply List.Perm.append_left
    rw [← List.append_assoc, ← List.append_assoc]
    exact List.Perm.append_right _ List.perm_append_comm

def join (number : Nat) (first second : Plan ι) : Except Failure (Plan ι) :=
  .ok (.step number first second)

structure Built (inputs : List ι) (number : Nat) (queue : Queue (Plan ι)) : Prop where
  inputs : ((queue.pending ++ queue.nodes).flatMap Plan.inputs).Perm inputs
  numbers : ((queue.pending ++ queue.nodes).flatMap Plan.numbers).Perm (List.range number)
  made_length : queue.made.length = number
  made (place : Nat) (plan : Plan ι) : queue.made[place]? = some plan → ∃ first second,
    plan = .step place first second ∧ ∀ earlier ∈ first.numbers ++ second.numbers, earlier < place
  traced (plan : Plan ι) : plan ∈ queue.pending ++ queue.nodes → ∀ number first second,
    (number, first, second) ∈ plan.steps → queue.made[number]? = some (.step number first second)

theorem built_start (pending nodes : List ι) :
    Built (pending ++ nodes) 0 ⟨pending.map .input, nodes.map .input, []⟩ where
  inputs := by
    rw [← List.map_append, List.flatMap_map]
    simp [Plan.inputs]
  numbers := by
    rw [← List.map_append, List.flatMap_map]
    simp
  made_length := rfl
  made place plan found := by simp at found
  traced plan member := by
    rw [← List.map_append] at member
    obtain ⟨place, _, rfl⟩ := List.mem_map.mp member
    simp [steps]

theorem Built.step {inputs : List ι} {number : Nat} {flag : Bool} {queue next : Queue (Plan ι)}
    (taken : Queue.Step join number flag queue next) (built : Built inputs number queue) :
    Built inputs (number + 1) next := by
  obtain ⟨first, second, value, others, joined, before, after, made⟩ := taken.exists_perm
  obtain rfl : Plan.step number first second = value := Except.ok.inj joined
  have oldNumbers := (before.flatMap_right Plan.numbers).symm.trans built.numbers
  -- The two operands and what they were made of are earlier than the step.
  have earlier : ∀ old ∈ first.numbers ++ second.numbers, old < number := by
    intro old member
    refine List.mem_range.mp (oldNumbers.subset ?_)
    simp only [List.flatMap_cons, List.mem_append] at member ⊢
    tauto
  constructor
  case inputs =>
    apply (after.flatMap_right Plan.inputs).trans
    refine List.Perm.trans ?_ ((before.flatMap_right Plan.inputs).symm.trans built.inputs)
    simp [Plan.inputs]
  case numbers =>
    -- The new number is the one that the range grows by.
    apply (after.flatMap_right Plan.numbers).trans
    rw [List.range_succ]
    refine List.Perm.trans ?_ List.perm_append_comm
    rw [List.flatMap_cons, numbers_step]
    refine List.Perm.cons number (List.Perm.trans ?_ oldNumbers)
    simp
  case made_length => simp [made, built.made_length]
  case made =>
    intro place plan found
    rw [made] at found
    -- The place is that of an earlier step or the new one at the end.
    by_cases old : place < queue.made.length
    · rw [List.getElem?_append_left old] at found
      exact built.made place plan found
    · have bound := (List.getElem?_eq_some_iff.mp found).1
      rw [List.length_append, List.length_singleton] at bound
      obtain rfl : place = number := by
        have length := built.made_length
        omega
      rw [List.getElem?_append_right (Nat.le_of_eq built.made_length), built.made_length,
        Nat.sub_self] at found
      exact ⟨first, second, (Option.some.inj found).symm, earlier⟩
  case traced =>
    intro plan member number' first' second' inside
    have keep (plan : Plan ι) (old : plan ∈ queue.pending ++ queue.nodes)
        (inside : (number', first', second') ∈ plan.steps) :
        next.made[number']? = some (.step number' first' second') := by
      have found := built.traced plan old number' first' second' inside
      rw [made, List.getElem?_append_left (List.getElem?_eq_some_iff.mp found).1]
      exact found
    rcases List.mem_cons.mp (after.mem_iff.mp member) with rfl | other
    · rcases List.mem_cons.mp inside with new | inside
      · cases new
        rw [made, ← built.made_length, List.getElem?_concat_length]
      · rcases List.mem_append.mp inside with inside | inside
        · exact keep first (before.mem_iff.mpr (by simp)) inside
        · exact keep second (before.mem_iff.mpr (by simp)) inside
    · exact keep plan (before.mem_iff.mpr (by simp [other])) inside

/-- With one leaf more than there are true flags and one node for each false flag, the steps build one
plan over all inputs. -/
theorem exists_run (total : Nat) (pending nodes : List ι) {flags : List Bool} (nonempty : flags ≠ [])
    (leafCount : flags.count true + 1 = pending.length)
    (nodeCount : flags.count false = nodes.length) :
    ∃ plan made, Queue.run join total 0 flags ⟨pending.map .input, nodes.map .input, []⟩ =
        .ok ⟨[plan], [], made⟩ ∧
      made.getLast? = some plan ∧ Built (pending ++ nodes) flags.length ⟨[plan], [], made⟩ := by
  have joins (number : Nat) (first second : Plan ι) :
      ∃ value, join number first second = .ok value := ⟨_, rfl⟩
  obtain ⟨plan, made, ran, last⟩ :=
    Queue.exists_run_to_one joins total 0 ⟨pending.map Plan.input, nodes.map Plan.input, []⟩ nonempty
      (by simpa using leafCount) (by simpa using nodeCount)
  have built := Queue.run_keeps (fun _ _ _ _ taken built => built.step taken) ran
    (built_start pending nodes)
  rw [Nat.zero_add] at built
  exact ⟨plan, made, ran, last, built⟩

section
variable {inputs : List ι} {count : Nat} {plan : Plan ι} {made : List (Plan ι)}
  (built : Built inputs count ⟨[plan], [], made⟩)
include built

theorem Built.inputs_perm : plan.inputs.Perm inputs := by
  simpa using built.inputs

theorem Built.numbers_perm : plan.numbers.Perm (List.range count) := by
  simpa using built.numbers

theorem Built.earlier {number : Nat} {first second : Plan ι}
    (inside : (number, first, second) ∈ plan.steps) :
    ∀ earlier ∈ first.numbers ++ second.numbers, earlier < number := by
  have found := built.traced plan (by simp) number first second inside
  obtain ⟨first', second', same, earlier⟩ := built.made number _ found
  cases same
  exact earlier

theorem Built.number_of_last (last : made.getLast? = some plan) :
    plan.number? = some (count - 1) := by
  rw [List.getLast?_eq_getElem?] at last
  obtain ⟨first, second, rfl, _⟩ := built.made _ plan last
  have length := built.made_length
  dsimp only at length
  rw [length]
  rfl

-- All steps but the last are read, because the last is the only one that the plan itself stands for.
theorem Built.reads_perm (last : made.getLast? = some plan) :
    plan.reads.Perm (List.range (count - 1)) := by
  have all := plan.numbers_perm.symm.trans built.numbers_perm
  rw [built.number_of_last last] at all
  have positive : 0 < count := by
    have length := all.length_eq
    simp at length
    omega
  obtain ⟨before, rfl⟩ : ∃ before, count = before + 1 := ⟨count - 1, by omega⟩
  rw [Nat.add_sub_cancel, List.range_succ] at all
  exact (List.perm_cons before).mp (all.trans List.perm_append_comm)

end

def Gives (builder : HashBuilder) (digest : ι → Digest) (plan : Plan ι) (value : Digest) : Prop :=
  plan.eval builder digest = .ok value

theorem Gives.step {builder : HashBuilder} {digest : ι → Digest} {first second : Plan ι}
    {left right value : Digest} (number : Nat) (first_gives : first.Gives builder digest left)
    (second_gives : second.Gives builder digest right)
    (joined : builder.hashSorted left.octets right.octets = .ok value) :
    (Plan.step number first second).Gives builder digest value := by
  unfold Gives eval
  rw [first_gives, second_gives]
  exact joined

section
variable {builder : HashBuilder} (builds : builder.Total) (digest : ι → Digest)
  (pending nodes : List ι)
include builds

theorem run_alike (total : Nat) (flags : List Bool) :
    Alike (Queue.Related (Gives builder digest))
      (Queue.run join total 0 flags ⟨pending.map .input, nodes.map .input, []⟩)
      (Queue.run builder.join total 0 flags ⟨pending.map digest, nodes.map digest, []⟩) := by
  refine Queue.run_alike ?_ ⟨?_, ?_, .nil⟩ total 0 flags
  · intro number first second left right first_gives second_gives
    obtain ⟨value, joined⟩ := builds.join number left right
    rw [joined]
    exact .ok (Gives.step number first_gives second_gives joined)
  · simp [List.forall₂_map_left_iff, List.forall₂_map_right_iff, List.forall₂_same, Gives, eval]
  · simp [List.forall₂_map_left_iff, List.forall₂_map_right_iff, List.forall₂_same, Gives, eval]

theorem draws_of_run {flags : List Bool} {step : Nat} {flag : Bool} {first second : Plan ι}
    {before rest : Queue (Plan ι)} (found : flags[step]? = some flag)
    (reached : Queue.run join nodes.length 0 (flags.take step)
      ⟨pending.map .input, nodes.map .input, []⟩ = .ok before)
    (drawn : before.draw nodes.length step flag = .ok ((first, second), rest)) :
    ∃ left right, first.Gives builder digest left ∧ second.Gives builder digest right ∧
      Cursors.Draws builder ⟨(pending.map digest).toArray, (nodes.map digest).toArray⟩ flags step
        (left, right) := by
  -- Up to this step the plans go as the digests do, and these go as the cursors do.
  obtain ⟨before', reached', related⟩ :=
    (run_alike builds digest pending nodes nodes.length (flags.take step)).exists_of_ok reached
  obtain ⟨⟨⟨left, right⟩, rest'⟩, drawn', ⟨first_gives, second_gives⟩, _⟩ :=
    (Queue.draw_alike related nodes.length step flag).exists_of_ok drawn
  have same : nodes.length = (nodes.map digest).length := (List.length_map _).symm
  rw [same] at reached' drawn'
  obtain ⟨cursors, stopped, shows⟩ :=
    (run_start_alike builder (pending.map digest) (nodes.map digest) _).exists_of_ok_right reached'
  obtain ⟨⟨_, next⟩, taken, rfl, _⟩ :=
    (Cursors.draw_alike shows step flag).exists_of_ok_right drawn'
  exact ⟨left, right, first_gives, second_gives, flag, cursors, next, found, stopped, taken⟩

end

/-- Each place is an input once. The steps are numbered from zero, and each takes in what earlier ones
made. The last makes the value of the plan, and every other is read once. -/
structure Exhausts (plan : Plan ι) (count : Nat) : Prop where
  once : plan.inputs.Nodup
  all (place : ι) : place ∈ plan.inputs
  numbered : plan.numbers.Perm (List.range count)
  earlier (number : Nat) (first second : Plan ι) : (number, first, second) ∈ plan.steps →
    ∀ earlier ∈ first.numbers ++ second.numbers, earlier < number
  last : plan.number? = some (count - 1)
  reads : plan.reads.Perm (List.range (count - 1))

theorem Built.exhausts {inputs : List ι} {count : Nat} {plan : Plan ι} {made : List (Plan ι)}
    (built : Built inputs count ⟨[plan], [], made⟩) (last : made.getLast? = some plan)
    (once : inputs.Nodup) (all : ∀ place, place ∈ inputs) : plan.Exhausts count where
  once := built.inputs_perm.nodup_iff.mpr once
  all place := built.inputs_perm.mem_iff.mpr (all place)
  numbered := built.numbers_perm
  earlier _ _ _ inside := built.earlier inside
  last := built.number_of_last last
  reads := built.reads_perm last

/-- The steps of a verification read all that there is to read and do what a plan says. -/
structure Followed (plan : Plan ι) (builder : HashBuilder) (supply : Supply) (flags : List Bool)
    (digest : ι → Digest) (root : Digest) (cursors : Cursors) : Prop where
  ran : Cursors.start.run builder supply 0 flags = .ok cursors
  leaf : cursors.leaf = supply.leaves.size
  node : cursors.node = supply.nodes.size
  hash : cursors.hash + 1 = cursors.hashes.size
  size : cursors.hashes.size = flags.length
  last : cursors.hashes.back? = some root
  root : plan.Gives builder digest root
  steps (number : Nat) (first second : Plan ι) : (number, first, second) ∈ plan.steps →
    ∃ left right made, first.Gives builder digest left ∧ second.Gives builder digest right ∧
      Cursors.Draws builder supply flags number (left, right) ∧
      builder.hashSorted left.octets right.octets = .ok made ∧ cursors.hashes[number]? = some made

theorem exists_followed {builder : HashBuilder} (builds : builder.Total) (digest : ι → Digest)
    {pending nodes : List ι} {flags : List Bool} (nonempty : flags ≠ []) {plan : Plan ι}
    {made : List (Plan ι)}
    (ran : Queue.run join nodes.length 0 flags ⟨pending.map .input, nodes.map .input, []⟩ =
      .ok ⟨[plan], [], made⟩)
    (built : Built (pending ++ nodes) flags.length ⟨[plan], [], made⟩) :
    ∃ root cursors,
      Queue.run builder.join nodes.length 0 flags ⟨pending.map digest, nodes.map digest, []⟩ =
        .ok ⟨[root], [], cursors.hashes.toList⟩ ∧
      plan.Followed builder ⟨(pending.map digest).toArray, (nodes.map digest).toArray⟩ flags digest
        root cursors := by
  obtain ⟨⟨waiting, rest, values⟩, ran', ⟨waits, unread, makes⟩⟩ :=
    (run_alike builds digest pending nodes nodes.length flags).exists_of_ok ran
  obtain ⟨root, _, gives, ⟨⟩, rfl⟩ := List.forall₂_cons_left_iff.mp waits
  obtain rfl := List.forall₂_nil_left_iff.mp unread
  have same : nodes.length = (nodes.map digest).length := (List.length_map _).symm
  have ran'' := ran'
  rw [same] at ran''
  obtain ⟨cursors, went, shows⟩ :=
    (run_start_alike builder (pending.map digest) (nodes.map digest) flags).exists_of_ok_right ran''
  obtain rfl : values = cursors.hashes.toList := shows.made
  obtain ⟨value, only, last⟩ := Queue.run_last nonempty ran'
  obtain rfl : root = value := by simpa using only
  have size : cursors.hashes.size = flags.length := by
    simpa using (Queue.run_lengths ran').2.2
  have positive : 0 < cursors.hashes.size := size ▸ List.length_pos_iff.mpr nonempty
  obtain ⟨leaf, hash⟩ := shows.read_of_single rfl positive
  refine ⟨root, cursors, ran', went, leaf, shows.node_eq_size_iff.mpr rfl, hash, size, ?_, gives, ?_⟩
  · rwa [Array.getLast?_toList] at last
  · intro number first second inside
    -- The run of the plans is stopped before this step, where it draws these two plans.
    have place := built.traced plan (by simp) number first second inside
    obtain ⟨bound, _⟩ := List.getElem?_eq_some_iff.mp place
    rw [built.made_length] at bound
    obtain ⟨before, first', second', rest, value, reached, drawn, joined, place'⟩ :=
      Queue.run_at ran (List.getElem?_eq_getElem bound)
    rw [List.length_nil, Nat.zero_add, place] at place'
    rw [Nat.zero_add] at drawn joined
    obtain rfl := Option.some.inj place'
    obtain ⟨-, rfl, rfl⟩ := Plan.step.inj (Except.ok.inj joined)
    obtain ⟨left, right, left_gives, right_gives, draws⟩ :=
      draws_of_run builds digest pending nodes (List.getElem?_eq_getElem bound) reached drawn
    -- What the step made is what was found at its place among the hashes.
    obtain ⟨made, found, made_gives⟩ := Queue.exists_getElem?_of_forall₂ makes place
    obtain ⟨made', joined⟩ := builds.hashSorted left.octets right.octets
    obtain rfl : made = made' := Except.ok.inj
      (made_gives.symm.trans (Gives.step number left_gives right_gives joined))
    exact ⟨left, right, made, left_gives, right_gives, draws, joined, by simpa using found⟩

end Plan

/-- Some multiproof with these numbers of leaves and nodes, and with flags of these truth values, is
processed to a root. -/
def Accepted (leafCount nodeCount : Nat) (truths : List Bool) : Prop :=
  ∃ builder limits proof flags leaves root, leaves.length = leafCount ∧ proof.length = nodeCount ∧
    flags.map Value.truth = truths ∧ processMultiProof builder limits proof flags leaves = .ok root

theorem Accepted.counts {leafCount nodeCount : Nat} {truths : List Bool}
    (accepted : Accepted leafCount nodeCount truths) (nonempty : truths ≠ []) :
    truths.count true + 1 = leafCount ∧ truths.count false = nodeCount := by
  obtain ⟨builder, limits, proof, flags, leaves, root, rfl, rfl, rfl, made⟩ := accepted
  exact counts_of_reconstruct (by simpa using nonempty) (processMultiProof_eq_ok_iff.mp made)

/-- Where a multiproof with flags is accepted, the numbers of its leaves and nodes and its flags fix
one tree over the places of the leaves and of the nodes. Whatever digests stand there, and whichever
builder hashes them, the root is the value of this tree, made by its last step. -/
theorem fixed_plan_of_accepted {leafCount nodeCount : Nat} {truths : List Bool}
    (nonempty : truths ≠ []) (accepted : Accepted leafCount nodeCount truths) :
    nodeCount = truths.count false ∧ ∃ plan : Plan (Fin leafCount ⊕ Fin nodeCount),
      plan.Exhausts truths.length ∧
      ∀ (builder : HashBuilder) (limits : Limits) (proof flags leaves : List Value)
        (digests : Fin leafCount → Digest) (nodes : Fin nodeCount → Digest),
        builder.Total → limits.Within leaves proof flags → Denote leaves (List.ofFn digests) →
        Denote proof (List.ofFn nodes) → flags.map Value.truth = truths →
        ∃ root cursors, processMultiProof builder limits proof flags leaves = .ok root ∧
          plan.Followed builder ⟨(List.ofFn digests).toArray, (List.ofFn nodes).toArray⟩ truths
            (Sum.elim digests nodes) root cursors := by
  obtain ⟨leafCounted, nodeCounted⟩ := accepted.counts nonempty
  refine ⟨nodeCounted.symm, ?_⟩
  let pending : List (Fin leafCount ⊕ Fin nodeCount) := (List.finRange leafCount).map .inl
  let rest : List (Fin leafCount ⊕ Fin nodeCount) := (List.finRange nodeCount).map .inr
  obtain ⟨plan, made, ran, last, built⟩ := Plan.exists_run rest.length pending rest nonempty
    (by simpa [pending] using leafCounted) (by simpa [rest] using nodeCounted)
  refine ⟨plan, built.exhausts last ?_ ?_, ?_⟩
  · apply List.Nodup.append
    · exact (List.nodup_finRange leafCount).map Sum.inl_injective
    · exact (List.nodup_finRange nodeCount).map Sum.inr_injective
    · simp [List.disjoint_left, pending, rest]
  · rintro (place | place) <;> simp [pending, rest]
  · rintro builder limits proof flags leaves digests nodes builds within denoteLeaves denoteProof rfl
    obtain ⟨root, cursors, went, followed⟩ :=
      Plan.exists_followed builds (Sum.elim digests nodes) nonempty ran built
    have leafDigests : pending.map (Sum.elim digests nodes) = List.ofFn digests := by
      simp [pending, Function.comp_def, List.ofFn_eq_map]
    have nodeDigests : rest.map (Sum.elim digests nodes) = List.ofFn nodes := by
      simp [rest, Function.comp_def, List.ofFn_eq_map]
    rw [leafDigests, nodeDigests] at went followed
    refine ⟨root, cursors, ?_, followed⟩
    rw [processMultiProof_eq_ok_iff,
      reconstruct_eq_some_iff (by simpa using nonempty) denoteLeaves denoteProof]
    exact ⟨within, cursors.hashes.toList, by simpa [rest] using went⟩

/-- The plan behind two leaves, a flag for both of them, and two nodes. -/
theorem fixed_plan_of_two_leaves :
    Accepted 2 2 [true, false, false] ∧
      ∃ plan : Plan (Fin 2 ⊕ Fin 2), plan.Exhausts 3 ∧ ∃ root cursors,
        processMultiProof HashName.keccak256.builder ⟨2, 2, 3⟩ [.digest .zero, .digest .zero]
          [.integer 7, .null, .boolean false] [.digest .zero, .digest .zero] = .ok root ∧
        plan.Followed HashName.keccak256.builder ⟨#[.zero, .zero], #[.zero, .zero]⟩
          [true, false, false] (fun _ => .zero) root cursors := by
  have builds := HashName.keccak256.total
  have denote : Denote [.digest .zero, .digest .zero] [.zero, .zero] :=
    denote_map_digest [.zero, .zero]
  have within : Limits.Within ⟨2, 2, 3⟩ [.digest .zero, .digest .zero] [.digest .zero, .digest .zero]
      [.integer 7, .null, .boolean false] := rfl
  obtain ⟨root, made⟩ := (exists_root_iff builds within denote denote (by simp) rfl).mpr rfl
  have accepted : Accepted 2 2 [true, false, false] := ⟨_, _, _, _, _, root, rfl, rfl, rfl, made⟩
  obtain ⟨_, plan, exhausts, follows⟩ := fixed_plan_of_accepted (by simp) accepted
  obtain ⟨root', cursors, made', followed⟩ :=
    follows _ _ _ _ _ (fun _ => .zero) (fun _ => .zero) builds within denote denote rfl
  have constant : Sum.elim (fun _ => Digest.zero) (fun _ => Digest.zero) =
      fun _ : Fin 2 ⊕ Fin 2 => Digest.zero := by
    funext place
    cases place <;> rfl
  exact ⟨accepted, plan, exhausts, root', cursors, made', constant ▸ followed⟩

end Inclusion
