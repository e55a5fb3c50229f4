import Inclusion.Proof.MultiProof
import Inclusion.Proofs.Reconstruction
import Mathlib.Data.List.Sort

/-! Trees that are laid out in one array, and the multiproofs that are read off them. The children of
an entry stand at twice its index plus one and plus two, and the leaves fill the end of the array from
the last entry backward. From leaves chosen there one climbs level by level, and writes down at each
step whether the sibling is reached as well or has to be supplied. -/

set_option autoImplicit false

namespace Inclusion

structure Layout (builder : HashBuilder) (leaves nodes : List Digest) : Prop where
  size : nodes.length + 1 = 2 * leaves.length
  leaf (place : Nat) : place < leaves.length →
    nodes[2 * leaves.length - 2 - place]? = leaves[place]?
  node (index : Nat) : index + 1 < leaves.length → ∃ left right made,
    nodes[2 * index + 1]? = some left ∧ nodes[2 * index + 2]? = some right ∧
      builder.hashSorted left.octets right.octets = .ok made ∧ nodes[index]? = some made

namespace Layout

def parent (index : Nat) : Nat := (index - 1) / 2

def sibling (index : Nat) : Nat := if index % 2 = 1 then index + 1 else index - 1

/-- Climb from the entries in a queue: the siblings to be supplied, and a flag for each step that is
true where the sibling is next in the queue. -/
def ascend : List Nat → List Nat × List Bool
  | [] => ([], [])
  | 0 :: _ => ([], [])
  | (index + 1) :: queue =>
    if queue.head? = some (sibling (index + 1)) then
      let (proof, flags) := ascend (queue.tail ++ [parent (index + 1)])
      (proof, true :: flags)
    else
      let (proof, flags) := ascend (queue ++ [parent (index + 1)])
      (sibling (index + 1) :: proof, false :: flags)
termination_by queue => queue.sum
decreasing_by
  · have less : (queue.tail).sum ≤ queue.sum := by cases queue <;> simp
    simp [parent]
    omega
  · simp [parent]
    omega

def entries (nodes : List Digest) (places : List Nat) : List Nat :=
  (places.map (nodes.length - 1 - ·)).mergeSort fun first second => second ≤ first

/-- The leaves at some places and a multiproof for them. Without leaves the root proves itself. -/
def select (nodes : List Digest) (places : List Nat) : Option (List Digest × MultiProof) := do
  let queue := entries nodes places
  let (siblings, flags) := ascend queue
  let leaves ← queue.mapM (nodes[·]?)
  let proof ← (if queue.isEmpty then [0] else siblings).mapM (nodes[·]?)
  return (leaves, ⟨proof, flags⟩)

theorem ascend_of_next {index : Nat} {queue : List Nat}
    (next : queue.head? = some (sibling (index + 1))) :
    ascend ((index + 1) :: queue) =
      ((ascend (queue.tail ++ [parent (index + 1)])).1,
        true :: (ascend (queue.tail ++ [parent (index + 1)])).2) := by
  rw [ascend, if_pos next]

theorem ascend_of_absent {index : Nat} {queue : List Nat}
    (next : ¬queue.head? = some (sibling (index + 1))) :
    ascend ((index + 1) :: queue) =
      (sibling (index + 1) :: (ascend (queue ++ [parent (index + 1)])).1,
        false :: (ascend (queue ++ [parent (index + 1)])).2) := by
  rw [ascend, if_neg next]

-- An odd entry is the first child of its parent and an even one the second.
theorem child_cases {index : Nat} (positive : 0 < index) :
    (index = 2 * parent index + 1 ∧ sibling index = 2 * parent index + 2) ∨
      (index = 2 * parent index + 2 ∧ sibling index = 2 * parent index + 1) := by
  unfold parent sibling
  split <;> omega

theorem parent_le (index : Nat) : parent index ≤ index := by
  unfold parent
  omega

/-! ## The queue of entries -/

/-- What holds of the entries in the queue: they go down, no further than to half of the largest, and
are entries of an array of this size. -/
structure Level (size : Nat) (queue : List Nat) : Prop where
  descending : queue.Pairwise (· > ·)
  near : ∀ first ∈ queue, ∀ second ∈ queue, second ≤ 2 * first
  inside : ∀ index ∈ queue, index < size

namespace Level
variable {size index : Nat} {queue rest : List Nat}

theorem sublist (level : Level size queue) (fewer : rest.Sublist queue) : Level size rest where
  descending := level.descending.sublist fewer
  near first firstMember second secondMember :=
    level.near first (fewer.subset firstMember) second (fewer.subset secondMember)
  inside index member := level.inside index (fewer.subset member)

theorem lt_of_mem (level : Level size (index :: rest)) : ∀ other ∈ rest, other < index :=
  (List.pairwise_cons.mp level.descending).1

theorem rest_of_zero (level : Level size (0 :: rest)) : rest = [] := by
  apply List.eq_nil_iff_forall_not_mem.mpr
  intro other member
  exact absurd (level.lt_of_mem other member) (Nat.not_lt_zero other)

theorem sibling_not_mem (level : Level size (index :: rest)) (positive : 0 < index)
    (next : rest.head? ≠ some (sibling index)) : sibling index ∉ rest := by
  intro member
  have less := level.lt_of_mem _ member
  cases rest with
  | nil => cases member
  | cons head tail =>
    have below := level.lt_of_mem head List.mem_cons_self
    have sorted := level.sublist (List.sublist_cons_self index (head :: tail))
    rcases List.mem_cons.mp member with same | later
    · exact next (congrArg some same.symm)
    · -- No entry stands between an even one and its sibling.
      have above := sorted.lt_of_mem _ later
      rcases child_cases positive with ⟨this, other⟩ | ⟨this, other⟩ <;> omega

-- The parent goes below all that are left: they are at least half as large as its child, and the
-- largest of them is not its other child.
theorem push_parent (level : Level size (index :: rest)) (positive : 0 < index)
    (absent : sibling index ∉ rest) : Level size (rest ++ [parent index]) := by
  have member (other : Nat) (inRest : other ∈ rest) : other ∈ index :: rest :=
    List.mem_cons_of_mem index inRest
  have half (other : Nat) (inRest : other ∈ rest) : parent index < other := by
    have near := level.near other (member other inRest) index List.mem_cons_self
    rcases child_cases positive with ⟨this, _⟩ | ⟨this, _⟩ <;> omega
  have double (other : Nat) (inRest : other ∈ rest) : other ≤ 2 * parent index := by
    have less := level.lt_of_mem other inRest
    have different : other ≠ sibling index := fun same => absent (same ▸ inRest)
    rcases child_cases positive with ⟨this, next⟩ | ⟨this, next⟩ <;> omega
  constructor
  case descending =>
    refine List.pairwise_append.mpr ⟨level.descending.of_cons, List.pairwise_singleton _ _, ?_⟩
    intro other inRest last isParent
    rw [List.mem_singleton.mp isParent]
    exact half other inRest
  case near =>
    intro first firstMember second secondMember
    rw [List.mem_append, List.mem_singleton] at firstMember secondMember
    rcases firstMember with inFirst | rfl <;> rcases secondMember with inSecond | rfl
    · exact level.near first (member first inFirst) second (member second inSecond)
    · have less := half first inFirst
      omega
    · exact double second inSecond
    · omega
  case inside =>
    intro other inside
    rcases List.mem_append.mp inside with inRest | isParent
    · exact level.inside other (member other inRest)
    · have bound := level.inside index List.mem_cons_self
      rw [List.mem_singleton.mp isParent]
      exact Nat.lt_of_le_of_lt (parent_le index) bound

end Level

/-! ## Climbing with digests -/

def entry (nodes : List Digest) (index : Nat) : Digest := nodes.getD index .zero

theorem getElem?_entry {nodes : List Digest} {index : Nat} (bound : index < nodes.length) :
    nodes[index]? = some (entry nodes index) := by
  simp [entry, bound]

theorem mapM_entry {nodes : List Digest} {indices : List Nat}
    (inside : ∀ index ∈ indices, index < nodes.length) :
    indices.mapM (nodes[·]?) = some (indices.map (entry nodes)) := by
  induction indices with
  | nil => rfl
  | cons index indices ih =>
    rw [List.mapM_cons, getElem?_entry (inside index List.mem_cons_self),
      ih fun other member => inside other (List.mem_cons_of_mem index member)]
    rfl

section
variable {builder : HashBuilder} {leaves nodes : List Digest} (layout : Layout builder leaves nodes)
include layout

theorem join_sibling {index : Nat} (positive : 0 < index) (bound : index < nodes.length)
    (step : Nat) : builder.join step (entry nodes index) (entry nodes (sibling index)) =
      .ok (entry nodes (parent index)) := by
  have size := layout.size
  have inner : parent index + 1 < leaves.length := by
    unfold parent
    omega
  obtain ⟨left, right, made, atLeft, atRight, joined, atParent⟩ := layout.node (parent index) inner
  have isLeft : entry nodes (2 * parent index + 1) = left := by simp [entry, atLeft]
  have isRight : entry nodes (2 * parent index + 2) = right := by simp [entry, atRight]
  have isParent : entry nodes (parent index) = made := by simp [entry, atParent]
  rw [isParent, ← joined, ← isLeft, ← isRight]
  unfold HashBuilder.join
  rcases child_cases positive with ⟨this, other⟩ | ⟨this, other⟩
  · rw [← this, ← other]
  · rw [← this, ← other]
    exact builder.hashSorted_comm _ _

theorem sibling_lt {index : Nat} (positive : 0 < index) (bound : index < nodes.length) :
    sibling index < nodes.length := by
  have size := layout.size
  rcases child_cases positive with ⟨this, other⟩ | ⟨this, other⟩ <;> omega

theorem level_entries {places : List Nat} (distinct : places.Nodup)
    (inside : ∀ place ∈ places, place < leaves.length) :
    Level nodes.length (entries nodes places) := by
  have size := layout.size
  have sorted : (entries nodes places).Perm (places.map (nodes.length - 1 - ·)) :=
    List.mergeSort_perm _ _
  have half (index : Nat) (member : index ∈ entries nodes places) :
      leaves.length ≤ index + 1 ∧ index < nodes.length := by
    obtain ⟨place, inPlaces, rfl⟩ := List.mem_map.mp (sorted.mem_iff.mp member)
    have bound := inside place inPlaces
    omega
  constructor
  case descending =>
    have different : (entries nodes places).Nodup := by
      refine sorted.nodup_iff.mpr (distinct.map_on fun first inFirst second inSecond same => ?_)
      have first_bound := inside first inFirst
      have second_bound := inside second inSecond
      omega
    have down : (entries nodes places).Pairwise fun first second => decide (second ≤ first) :=
      List.pairwise_mergeSort (by grind) (by grind) _
    simp only [decide_eq_true_eq] at down
    exact (down.and different).imp fun ⟨le, ne⟩ => Nat.lt_of_le_of_ne le ne.symm
  case near =>
    intro first inFirst second inSecond
    have low := half first inFirst
    have high := half second inSecond
    omega
  case inside =>
    intro index member
    exact (half index member).2

theorem siblings_inside {queue : List Nat} (inside : ∀ index ∈ queue, index < nodes.length) :
    ∀ index ∈ (ascend queue).1, index < nodes.length := by
  induction queue using ascend.induct with
  | case1 => simp [ascend]
  | case2 queue => simp [ascend]
  | case3 index queue next _ _ _ ih =>
    obtain ⟨bound, rest⟩ := List.forall_mem_cons.mp inside
    rw [ascend_of_next next]
    refine ih (List.forall_mem_append.mpr ⟨fun other member => ?_, ?_⟩)
    · exact rest other (List.mem_of_mem_tail member)
    · simpa using Nat.lt_of_le_of_lt (parent_le _) bound
  | case4 index queue next _ _ _ ih =>
    obtain ⟨bound, rest⟩ := List.forall_mem_cons.mp inside
    rw [ascend_of_absent next]
    refine List.forall_mem_cons.mpr ⟨layout.sibling_lt (Nat.succ_pos index) bound, ?_⟩
    refine ih (List.forall_mem_append.mpr ⟨rest, ?_⟩)
    simpa using Nat.lt_of_le_of_lt (parent_le _) bound

/-- From the entries in a queue and the siblings of the climb, the steps go up to the root. -/
theorem run_ascend (total : Nat) {queue : List Nat} (level : Level nodes.length queue)
    (nonempty : queue ≠ []) (step : Nat) (made : List Digest) :
    ∃ made', Queue.run builder.join total step (ascend queue).2
      ⟨queue.map (entry nodes), (ascend queue).1.map (entry nodes), made⟩ =
        .ok ⟨[entry nodes 0], [], made'⟩ := by
  induction queue using ascend.induct generalizing step made with
  | case1 => exact absurd rfl nonempty
  | case2 queue =>
    obtain rfl := level.rest_of_zero
    exact ⟨made, by simp [ascend, Queue.run]⟩
  | case3 index queue next _ _ _ ih =>
    -- The sibling is next, and both give way to their parent.
    have bound := level.inside (index + 1) List.mem_cons_self
    have joined := layout.join_sibling (Nat.succ_pos index) bound step
    obtain ⟨rest, rfl⟩ := List.head?_eq_some_iff.mp next
    rw [ascend_of_next next]
    have fewer : Level nodes.length ((index + 1) :: rest) :=
      level.sublist ((List.sublist_cons_self _ rest).cons_cons _)
    have absent : sibling (index + 1) ∉ rest := fun member =>
      Nat.lt_irrefl _ ((level.sublist (List.sublist_cons_self _ _)).lt_of_mem _ member)
    obtain ⟨made', ran⟩ := ih (fewer.push_parent (Nat.succ_pos index) absent) (by simp) (step + 1)
      (made ++ [entry nodes (parent (index + 1))])
    refine ⟨made', (Queue.run_cons_of_step (.pending joined)).trans ?_⟩
    simpa [Queue.push] using ran
  | case4 index queue next _ _ _ ih =>
    -- The sibling is supplied, and is not in the queue.
    have bound := level.inside (index + 1) List.mem_cons_self
    have joined := layout.join_sibling (Nat.succ_pos index) bound step
    rw [ascend_of_absent next]
    have absent := level.sibling_not_mem (Nat.succ_pos index) next
    obtain ⟨made', ran⟩ := ih (level.push_parent (Nat.succ_pos index) absent) (by simp) (step + 1)
      (made ++ [entry nodes (parent (index + 1))])
    refine ⟨made', (Queue.run_cons_of_step (.node joined)).trans ?_⟩
    simpa [Queue.push] using ran

end

example : ascend [4, 2] = ([3], [false, true]) := by cbv

theorem exists_parents {builder : HashBuilder} (total : builder.Total) (count : Nat)
    (nodes : List Digest) (enough : count < nodes.length) :
    ∃ parents, parents.length = count ∧ ∀ index < count, ∃ left right made,
      (parents ++ nodes)[2 * index + 1]? = some left ∧
        (parents ++ nodes)[2 * index + 2]? = some right ∧
        builder.hashSorted left.octets right.octets = .ok made ∧
        (parents ++ nodes)[index]? = some made := by
  induction count generalizing nodes with
  | zero => exact ⟨[], rfl, fun _ none => absurd none (Nat.not_lt_zero _)⟩
  | succ count ih =>
    obtain ⟨made, joined⟩ := total.hashSorted nodes[count].octets nodes[count + 1].octets
    obtain ⟨parents, length, holds⟩ := ih (made :: nodes) (by simp; omega)
    refine ⟨parents ++ [made], by simp [length], fun index bound => ?_⟩
    rw [List.append_assoc, List.singleton_append]
    -- The parent put in first is the last of them, and its children are in the old part.
    rcases Nat.lt_succ_iff_lt_or_eq.mp bound with before | rfl
    · exact holds index before
    · refine ⟨nodes[index], nodes[index + 1], made, ?_, ?_, joined, ?_⟩
      · rw [List.getElem?_append_right (by omega)]
        simp [length, show 2 * index + 1 - index = index + 1 by omega]
      · rw [List.getElem?_append_right (by omega)]
        simp [length, show 2 * index + 2 - index = index + 1 + 1 by omega]
      · simp [← length]

theorem exists_layout {builder : HashBuilder} (total : builder.Total) {leaves : List Digest}
    (nonempty : leaves ≠ []) : ∃ nodes, Layout builder leaves nodes := by
  have positive := List.length_pos_iff.mpr nonempty
  obtain ⟨parents, length, holds⟩ := exists_parents total (leaves.length - 1) leaves.reverse
    (by rw [List.length_reverse]; omega)
  refine ⟨parents ++ leaves.reverse, ?_, fun place bound => ?_, fun index bound => ?_⟩
  · simp [length]
    omega
  · rw [List.getElem?_append_right (by omega), length, List.getElem?_reverse (by omega)]
    congr 1
    omega
  · exact holds index (by omega)

theorem entries_perm {builder : HashBuilder} {leaves nodes : List Digest}
    (layout : Layout builder leaves nodes) {places : List Nat}
    (inside : ∀ place ∈ places, place < leaves.length) :
    ((entries nodes places).map (nodes[·]?)).Perm (places.map (leaves[·]?)) := by
  apply ((List.mergeSort_perm _ _).map (nodes[·]?)).trans
  rw [List.map_map]
  refine .of_eq (List.map_congr_left fun place member => ?_)
  have size := layout.size
  have same : 2 * leaves.length - 2 - place = nodes.length - 1 - place := by omega
  rw [← layout.leaf place (inside place member), same]
  rfl

theorem entries_ne_nil {nodes : List Digest} {places : List Nat} (nonempty : places ≠ []) :
    entries nodes places ≠ [] := by
  simpa [entries, ← List.length_eq_zero_iff] using nonempty

theorem select_nil {nodes : List Digest} (positive : 0 < nodes.length) :
    select nodes [] = some ([], ⟨[entry nodes 0], []⟩) := by
  simp [select, entries, ascend, getElem?_entry positive]

theorem select_eq_some {builder : HashBuilder} {leaves nodes : List Digest}
    (layout : Layout builder leaves nodes) {places : List Nat} (distinct : places.Nodup)
    (inside : ∀ place ∈ places, place < leaves.length) (nonempty : places ≠ []) :
    select nodes places = some ((entries nodes places).map (entry nodes),
      ⟨(ascend (entries nodes places)).1.map (entry nodes), (ascend (entries nodes places)).2⟩) := by
  have level := layout.level_entries distinct inside
  unfold select
  dsimp only
  rw [if_neg (by simpa using entries_ne_nil nonempty), mapM_entry level.inside,
    mapM_entry (layout.siblings_inside level.inside)]
  rfl

end Layout

/-- Every tree has its layout, and whichever of its leaves are chosen, the multiproof that is read off
the layout leads from them to the root. -/
theorem select_complete {builder : HashBuilder} (total : builder.Total) {leaves : List Digest}
    (nonempty : leaves ≠ []) :
    (∃ nodes, Layout builder leaves nodes) ∧
    ∀ nodes, Layout builder leaves nodes → ∀ places : List Nat, places.Nodup →
      (∀ place ∈ places, place < leaves.length) →
      ∃ chosen multiProof root, Layout.select nodes places = some (chosen, multiProof) ∧
        (chosen.map some).Perm (places.map (leaves[·]?)) ∧ nodes[0]? = some root ∧
        ∀ (limits : Limits) (proof flags given : List Value) (committed : Value),
          Denote given chosen → Denote proof multiProof.proof →
          flags.map Value.truth = multiProof.flags → committed.toDigest = .ok root →
          limits.Within given proof flags →
          processMultiProof builder limits proof flags given = .ok root ∧
            (verifyMultiProof builder limits proof flags committed given).result = .ok true := by
  refine ⟨Layout.exists_layout total nonempty, fun nodes layout places distinct inside => ?_⟩
  have positive : 0 < nodes.length := by
    have size := layout.size
    have leaf := List.length_pos_iff.mpr nonempty
    omega
  have found := Layout.getElem?_entry positive
  have settle {limits : Limits} {proof flags given : List Value} {committed : Value}
      (read : committed.toDigest = .ok (Layout.entry nodes 0))
      (made : reconstruct builder limits proof flags given = .ok (some (Layout.entry nodes 0))) :
      processMultiProof builder limits proof flags given = .ok (Layout.entry nodes 0) ∧
        (verifyMultiProof builder limits proof flags committed given).result = .ok true :=
    ⟨processMultiProof_eq_ok_iff.mpr made, verifyMultiProof_eq_true_iff.mpr ⟨_, made, read⟩⟩
  by_cases none : places = []
  · subst none
    refine ⟨_, _, _, Layout.select_nil positive, .nil, found, ?_⟩
    intro limits proof flags given committed denoteLeaves denoteProof truths read within
    obtain rfl := List.map_eq_nil_iff.mp truths
    apply settle read
    rw [reconstruct_no_flags within denoteLeaves denoteProof]
    rfl
  · have level := layout.level_entries distinct inside
    have chosen : ((Layout.entries nodes places).map (Layout.entry nodes)).map some =
        (Layout.entries nodes places).map (nodes[·]?) := by
      rw [List.map_map]
      exact List.map_congr_left fun index member =>
        (Layout.getElem?_entry (level.inside index member)).symm
    refine ⟨_, _, _, layout.select_eq_some distinct inside none, ?_, found, ?_⟩
    · rw [chosen]
      exact layout.entries_perm inside
    intro limits proof flags given committed denoteLeaves denoteProof truths read within
    obtain ⟨made, ran⟩ := layout.run_ascend _ level (Layout.entries_ne_nil none) 0 []
    dsimp only at truths
    rw [← truths] at ran
    exact settle read (reconstruct_of_run within denoteLeaves denoteProof ran)

/-- Three leaves, of which two on different levels are chosen. -/
theorem select_complete_two_of_three :
    ∃ nodes, Layout HashName.keccak256.builder [.zero, .zero, .zero] nodes ∧
      ∃ chosen multiProof root, Layout.select nodes [2, 0] = some (chosen, multiProof) ∧
        (verifyMultiProof HashName.keccak256.builder
          ⟨chosen.length, multiProof.proof.length, multiProof.flags.length⟩ multiProof.proofValues
          multiProof.flagValues (.digest root) (chosen.map .digest)).result = .ok true := by
  obtain ⟨⟨nodes, layout⟩, complete⟩ :=
    select_complete HashName.keccak256.total (List.cons_ne_nil Digest.zero [.zero, .zero])
  obtain ⟨chosen, multiProof, root, selected, _, _, accepted⟩ :=
    complete nodes layout [2, 0] (by decide) (by decide)
  refine ⟨nodes, layout, chosen, multiProof, root, selected, (accepted _ _ _ _ _
    (denote_map_digest chosen) (denote_map_digest multiProof.proof) ?_ rfl ?_).2⟩
  · simp [MultiProof.flagValues, Function.comp_def, Value.truth]
  · simp [Limits.Within, Limits.check_eq_ok_iff, MultiProof.flagValues]

end Inclusion
