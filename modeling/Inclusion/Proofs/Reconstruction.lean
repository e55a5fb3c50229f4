import Inclusion.Proof.Multi
import Inclusion.Proofs.PairHash
import Inclusion.Proofs.Queue
import Mathlib.Data.Bool.Count

/-! The cursors over leaves, hashes and proof nodes are a plain queue: unread leaves and after them
unread hashes wait in one line. From values that denote digests, a root is therefore reconstructed
exactly where the queue runs down to this root alone. -/

set_option autoImplicit false

namespace Inclusion

def HashBuilder.join (builder : HashBuilder) (_step : Nat) (first second : Digest) :
    Except Failure Digest :=
  builder.hashSorted first.octets second.octets

theorem HashBuilder.Total.join {builder : HashBuilder} (total : builder.Total) (step : Nat)
    (first second : Digest) : ∃ digest, builder.join step first second = .ok digest :=
  total.hashSorted first.octets second.octets

theorem mapM_eq_ok_iff {α β ε : Type} {read : α → Except ε β} {items : List α} {results : List β} :
    items.mapM read = .ok results ↔
      List.Forall₂ (fun item result => read item = .ok result) items results := by
  induction items generalizing results with
  | nil =>
    rw [List.forall₂_nil_left_iff, eq_comm (b := [])]
    exact ⟨Except.ok.inj, congrArg Except.ok⟩
  | cons item items ih =>
    rw [List.mapM_cons, List.forall₂_cons_left_iff]
    simp only [← ih]
    cases head : read item with
    | error error => simp [Bind.bind, Except.bind]
    | ok result =>
      cases items.mapM read with
      | error error => simp [Bind.bind, Except.bind]
      | ok others => simp [Bind.bind, Except.bind, pure, Except.pure, eq_comm]

def Denote (values : List Value) (digests : List Digest) : Prop :=
  List.Forall₂ (fun value digest => value.toDigest = .ok digest) values digests

theorem Denote.mapM {values : List Value} {digests : List Digest} (denote : Denote values digests) :
    values.mapM Value.toDigest = .ok digests :=
  mapM_eq_ok_iff.mpr denote

theorem denote_of_mapM {values : List Value} {digests : List Digest}
    (read : values.mapM Value.toDigest = .ok digests) : Denote values digests :=
  mapM_eq_ok_iff.mp read

theorem denote_map_digest (digests : List Digest) : Denote (digests.map .digest) digests := by
  unfold Denote
  rw [List.forall₂_map_left_iff, List.forall₂_same]
  intro digest member
  rfl

theorem Denote.exists_of_mem {values : List Value} {digests : List Digest}
    (denote : Denote values digests) {value : Value} (member : value ∈ values) :
    ∃ digest ∈ digests, value.toDigest = .ok digest := by
  obtain ⟨place, found⟩ := List.mem_iff_getElem?.mp member
  obtain ⟨digest, there, read⟩ := Queue.exists_getElem?_of_forall₂ denote found
  exact ⟨digest, List.mem_of_getElem? there, read⟩

theorem drop_of_getElem? {α : Type} {values : Array α} {position : Nat} {value : α}
    (found : values[position]? = some value) :
    position < values.size ∧
      values.toList.drop position = value :: values.toList.drop (position + 1) := by
  obtain ⟨bound, rfl⟩ := Array.getElem?_eq_some_iff.mp found
  exact ⟨bound, List.drop_eq_getElem_cons (by simpa using bound)⟩

theorem drop_of_getElem?_none {α : Type} {values : Array α} {position : Nat}
    (missing : values[position]? = none) : values.toList.drop position = [] :=
  List.drop_eq_nil_of_le (Array.getElem?_eq_none_iff.mp missing)

namespace Cursors

/-- The queue that cursors stand for: unread leaves and after them unread hashes. No cursor is beyond
what there is to read, and no hash is read before the last leaf. -/
structure Shows (supply : Supply) (cursors : Cursors) (queue : Queue Digest) : Prop where
  leaf_le : cursors.leaf ≤ supply.leaves.size
  hash_le : cursors.hash ≤ cursors.hashes.size
  node_le : cursors.node ≤ supply.nodes.size
  leaves_first : 0 < cursors.hash → cursors.leaf = supply.leaves.size
  pending : queue.pending =
    supply.leaves.toList.drop cursors.leaf ++ cursors.hashes.toList.drop cursors.hash
  nodes : queue.nodes = supply.nodes.toList.drop cursors.node
  made : queue.made = cursors.hashes.toList

theorem start_shows (leaves nodes : List Digest) :
    start.Shows ⟨leaves.toArray, nodes.toArray⟩ ⟨leaves, nodes, []⟩ where
  leaf_le := Nat.zero_le _
  hash_le := Nat.zero_le _
  node_le := Nat.zero_le _
  leaves_first := fun positive => absurd positive (Nat.lt_irrefl 0)
  pending := (List.append_nil leaves).symm
  nodes := rfl
  made := rfl

section
variable {supply : Supply} {cursors : Cursors} {queue : Queue Digest}

theorem nextPending_alike (shows : cursors.Shows supply queue) (step : Nat) :
    Alike (Paired Eq (Shows supply)) (cursors.nextPending supply step) (queue.nextPending step) := by
  obtain ⟨leaf_le, hash_le, node_le, leaves_first, pending, nodes, made⟩ := shows
  unfold nextPending Queue.nextPending
  rw [pending]
  cases leaf : supply.leaves[cursors.leaf]? with
  | some value =>
    obtain ⟨bound, rest⟩ := drop_of_getElem? leaf
    rw [rest]
    have unread : 0 < cursors.hash → cursors.leaf + 1 = supply.leaves.size := fun positive => by
      have all := leaves_first positive
      omega
    exact .ok ⟨rfl, bound, hash_le, node_le, unread, rfl, nodes, made⟩
  | none =>
    -- Hashes are read only now that every leaf has been.
    have read := drop_of_getElem?_none leaf
    have all : cursors.leaf = supply.leaves.size :=
      Nat.le_antisymm leaf_le (Array.getElem?_eq_none_iff.mp leaf)
    rw [read]
    cases hash : cursors.hashes[cursors.hash]? with
    | some value =>
      obtain ⟨bound, rest⟩ := drop_of_getElem? hash
      rw [rest]
      exact .ok ⟨rfl, leaf_le, bound, node_le, fun _ => all, by rw [read]; rfl, nodes, made⟩
    | none =>
      rw [drop_of_getElem?_none hash]
      exact .error _

theorem nextNode_alike (shows : cursors.Shows supply queue) :
    Alike (Paired Eq (Shows supply)) (cursors.nextNode supply)
      (queue.nextNode supply.nodes.size) := by
  obtain ⟨leaf_le, hash_le, node_le, leaves_first, pending, nodes, made⟩ := shows
  unfold nextNode Queue.nextNode
  rw [nodes]
  cases node : supply.nodes[cursors.node]? with
  | some value =>
    obtain ⟨bound, rest⟩ := drop_of_getElem? node
    rw [rest]
    exact .ok ⟨rfl, leaf_le, hash_le, bound, leaves_first, pending, rfl, made⟩
  | none =>
    have all : cursors.node = supply.nodes.size :=
      Nat.le_antisymm node_le (Array.getElem?_eq_none_iff.mp node)
    rw [drop_of_getElem?_none node, all]
    exact .error _

theorem draw_alike (shows : cursors.Shows supply queue) (step : Nat) (flag : Bool) :
    Alike (Paired Eq (Shows supply)) (cursors.draw supply step flag)
      (queue.draw supply.nodes.size step flag) := by
  apply (nextPending_alike shows step).bind
  rintro ⟨first, cursors⟩ ⟨_, queue⟩ ⟨rfl, shows⟩
  have next : Alike (Paired Eq (Shows supply)) (cursors.nextFlagged supply step flag)
      (queue.nextFlagged supply.nodes.size step flag) := by
    cases flag with
    | false => exact nextNode_alike shows
    | true => exact nextPending_alike shows step
  apply next.bind
  rintro ⟨second, cursors⟩ ⟨_, queue⟩ ⟨rfl, shows⟩
  exact .ok ⟨rfl, shows⟩

theorem Shows.push (shows : cursors.Shows supply queue) (made : Digest) :
    Shows supply { cursors with hashes := cursors.hashes.push made } (queue.push made) where
  leaf_le := shows.leaf_le
  hash_le := by simpa using Nat.le_succ_of_le shows.hash_le
  node_le := shows.node_le
  leaves_first := shows.leaves_first
  pending := by
    have bound : cursors.hash ≤ cursors.hashes.toList.length := shows.hash_le
    simp [Queue.push, shows.pending, List.drop_append_of_le_length bound]
  nodes := shows.nodes
  made := by simp [Queue.push, shows.made]

variable {builder : HashBuilder}

theorem advance_alike (shows : cursors.Shows supply queue) (step : Nat) (flag : Bool) :
    Alike (Shows supply) (cursors.advance builder supply step flag)
      (queue.advance builder.join supply.nodes.size step flag) := by
  apply (draw_alike shows step flag).bind
  rintro ⟨⟨first, second⟩, cursors⟩ ⟨_, queue⟩ ⟨rfl, shows⟩
  change Alike (Shows supply) (builder.join step first second >>= _)
    (builder.join step first second >>= _)
  cases builder.join step first second with
  | ok made => exact .ok (shows.push made)
  | error failure => exact .error failure

/-- The cursors go as the queue goes, step by step, and fail where it fails. -/
theorem run_alike (shows : cursors.Shows supply queue) (step : Nat) (flags : List Bool) :
    Alike (Shows supply) (cursors.run builder supply step flags)
      (queue.run builder.join supply.nodes.size step flags) := by
  induction flags generalizing step cursors queue with
  | nil => exact .ok shows
  | cons flag flags ih =>
    apply (advance_alike shows step flag).bind
    intro next next' shows
    exact ih shows (step + 1)

theorem Shows.node_eq_size_iff (shows : cursors.Shows supply queue) :
    cursors.node = supply.nodes.size ↔ queue.nodes = [] := by
  rw [shows.nodes, List.drop_eq_nil_iff, Array.length_toList]
  exact ⟨fun same => Nat.le_of_eq same.symm, Nat.le_antisymm shows.node_le⟩

theorem Shows.read_of_single (shows : cursors.Shows supply queue) {root : Digest}
    (single : queue.pending = [root]) (positive : 0 < cursors.hashes.size) :
    cursors.leaf = supply.leaves.size ∧ cursors.hash + 1 = cursors.hashes.size := by
  have count := congrArg List.length (single.symm.trans shows.pending)
  simp only [List.length_append, List.length_drop, List.length_singleton, Array.length_toList] at count
  have leaf_le := shows.leaf_le
  have hash_le := shows.hash_le
  -- If no hash was read, the single value would be the first hash all the same.
  by_cases started : 0 < cursors.hash
  · have all := shows.leaves_first started
    omega
  · omega

theorem Shows.conclude_eq_ok_iff (shows : cursors.Shows supply queue) {root? : Option Digest} :
    cursors.conclude supply = .ok root? ↔ queue.nodes = [] ∧ queue.made.getLast? = root? := by
  rw [← shows.node_eq_size_iff, shows.made, Array.getLast?_toList]
  unfold conclude
  by_cases all : cursors.node = supply.nodes.size <;> simp [all]

end

def Draws (builder : HashBuilder) (supply : Supply) (flags : List Bool) (step : Nat)
    (pair : Digest × Digest) : Prop :=
  ∃ flag cursors next, flags[step]? = some flag ∧
    start.run builder supply 0 (flags.take step) = .ok cursors ∧
    cursors.draw supply step flag = .ok (pair, next)

end Cursors

section
variable {builder : HashBuilder} {leaves nodes : List Digest}

variable (builder leaves nodes) in
theorem run_start_alike (flags : List Bool) :
    Alike (Cursors.Shows ⟨leaves.toArray, nodes.toArray⟩)
      (Cursors.start.run builder ⟨leaves.toArray, nodes.toArray⟩ 0 flags)
      (Queue.run builder.join nodes.length 0 flags ⟨leaves, nodes, []⟩) :=
  Cursors.run_alike (Cursors.start_shows leaves nodes) 0 flags

theorem combine_of_error {flags : List Bool} {failure : Failure}
    (failed : Queue.run builder.join nodes.length 0 flags ⟨leaves, nodes, []⟩ = .error failure) :
    combine builder ⟨leaves.toArray, nodes.toArray⟩ flags = .error failure := by
  have alike := run_start_alike builder leaves nodes flags
  rw [failed] at alike
  unfold combine
  generalize Cursors.start.run builder ⟨leaves.toArray, nodes.toArray⟩ 0 flags = result at alike ⊢
  cases alike
  rfl

theorem combine_eq_some_iff {flags : List Bool} (nonempty : flags ≠ [])
    (length : leaves.length + nodes.length = flags.length + 1) {root : Digest} :
    combine builder ⟨leaves.toArray, nodes.toArray⟩ flags = .ok (some root) ↔
      ∃ made, Queue.run builder.join nodes.length 0 flags ⟨leaves, nodes, []⟩ =
        .ok ⟨[root], [], made⟩ := by
  have alike := run_start_alike builder leaves nodes flags
  have counts := List.count_true_add_count_false flags
  unfold combine
  generalize Cursors.start.run builder ⟨leaves.toArray, nodes.toArray⟩ 0 flags = result at alike ⊢
  cases ran : Queue.run builder.join nodes.length 0 flags ⟨leaves, nodes, []⟩ with
  | error failure =>
    rw [ran] at alike
    cases alike
    constructor
    · intro combined
      cases combined
    · rintro ⟨made, none⟩
      cases none
  | ok final =>
    rw [ran] at alike
    obtain ⟨pending, unread, _⟩ := Queue.run_lengths ran
    obtain ⟨value, waits, last⟩ := Queue.run_last nonempty ran
    cases alike with
    | ok shows =>
      change Cursors.conclude _ _ = _ ↔ _
      rw [shows.conclude_eq_ok_iff, last]
      obtain ⟨waiting, rest, made⟩ := final
      constructor
      · -- No node is left, so by the rule for the lengths just one value waits.
        rintro ⟨rfl, same⟩
        obtain rfl := Option.some.inj same
        simp only [List.length_nil] at pending unread
        obtain ⟨only, rfl⟩ := List.length_eq_one_iff.mp (show waiting.length = 1 by omega)
        obtain rfl : only = value := by simpa using waits
        exact ⟨made, rfl⟩
      · rintro ⟨made, same⟩
        cases same
        exact ⟨rfl, waits.symm⟩

end

/-! ## Roots of values that denote digests -/

section
variable {builder : HashBuilder} {limits : Limits} {proof flags leaves : List Value}

def Limits.Within (limits : Limits) (leaves proof flags : List Value) : Prop :=
  limits.check leaves.length proof.length flags.length = .ok ()

theorem reconstruct_of_within (within : limits.Within leaves proof flags) (nonempty : flags ≠ []) :
    reconstruct builder limits proof flags leaves =
      if leaves.length + proof.length != flags.length + 1 then
        .error (.multiProof (.totalHashes leaves.length proof.length flags.length))
      else leaves.mapM Value.toDigest >>= fun digests => proof.mapM Value.toDigest >>= fun nodes =>
        combine builder ⟨digests.toArray, nodes.toArray⟩ (flags.map Value.truth) := by
  unfold reconstruct
  rw [within]
  change (if flags.isEmpty = true then _ else _) = _
  rw [if_neg (by simpa using nonempty)]
  rfl

theorem reconstruct_of_mismatch (within : limits.Within leaves proof flags) (nonempty : flags ≠ [])
    (mismatch : leaves.length + proof.length ≠ flags.length + 1) :
    reconstruct builder limits proof flags leaves =
      .error (.multiProof (.totalHashes leaves.length proof.length flags.length)) := by
  rw [reconstruct_of_within within nonempty, if_pos (by simpa using mismatch)]

theorem reconstruct_of_fit {digests nodes : List Digest} (within : limits.Within leaves proof flags)
    (nonempty : flags ≠ []) (fit : leaves.length + proof.length = flags.length + 1)
    (denoteLeaves : Denote leaves digests) (denoteProof : Denote proof nodes) :
    reconstruct builder limits proof flags leaves =
      combine builder ⟨digests.toArray, nodes.toArray⟩ (flags.map Value.truth) := by
  rw [reconstruct_of_within within nonempty, if_neg (by simpa using fit), denoteLeaves.mapM,
    denoteProof.mapM]
  rfl

theorem reconstruct_without_flags (within : limits.Within leaves proof []) :
    reconstruct builder limits proof [] leaves =
      match leaves ++ proof with
      | [sole] => some <$> sole.toDigest
      | _ => .ok none := by
  unfold reconstruct
  rw [within]
  match leaves, proof with
  | [], [] => rfl
  | [], [_] => rfl
  | [], _ :: _ :: _ => rfl
  | [_], [] => rfl
  | [_], _ :: _ => rfl
  | _ :: _ :: _, _ => rfl

theorem reconstruct_no_flags {digests nodes : List Digest} (within : limits.Within leaves proof [])
    (denoteLeaves : Denote leaves digests) (denoteProof : Denote proof nodes) :
    reconstruct builder limits proof [] leaves =
      .ok (match digests ++ nodes with | [sole] => some sole | _ => none) := by
  rw [reconstruct_without_flags within]
  have denote : Denote (leaves ++ proof) (digests ++ nodes) := List.rel_append denoteLeaves denoteProof
  match leaves ++ proof, digests ++ nodes, denote with
  | [], [], _ => rfl
  | [_], [_], .cons read .nil => exact congrArg (some <$> ·) read
  | _ :: _ :: _, _ :: _ :: _, _ => rfl

theorem within_of_reconstruct {root? : Option Digest}
    (made : reconstruct builder limits proof flags leaves = .ok root?) :
    limits.Within leaves proof flags := by
  unfold reconstruct at made
  unfold Limits.Within
  cases checked : limits.check leaves.length proof.length flags.length with
  | ok => rfl
  | error error =>
    rw [checked] at made
    cases made

theorem append_eq_of_reconstruct {digests nodes : List Digest} {root : Digest}
    (denoteLeaves : Denote leaves digests) (denoteProof : Denote proof nodes)
    (made : reconstruct builder limits proof [] leaves = .ok (some root)) :
    digests ++ nodes = [root] := by
  rw [reconstruct_no_flags (within_of_reconstruct made) denoteLeaves denoteProof] at made
  match digests ++ nodes, made with
  | [sole], made =>
    obtain rfl : sole = root := by simpa using made
    rfl

theorem exists_denote_of_reconstruct (nonempty : flags ≠ []) {root? : Option Digest}
    (made : reconstruct builder limits proof flags leaves = .ok root?) :
    ∃ digests nodes, Denote leaves digests ∧ Denote proof nodes := by
  rw [reconstruct_of_within (within_of_reconstruct made) nonempty] at made
  split at made
  · cases made
  · cases readLeaves : leaves.mapM Value.toDigest with
    | error failure =>
      rw [readLeaves] at made
      cases made
    | ok digests =>
      cases readProof : proof.mapM Value.toDigest with
      | error failure =>
        rw [readLeaves, readProof] at made
        cases made
      | ok nodes => exact ⟨digests, nodes, denote_of_mapM readLeaves, denote_of_mapM readProof⟩

/-- With flags, a root is reconstructed where the sizes are within the limits and the queue of the
digests runs down to this root. -/
theorem reconstruct_eq_some_iff {digests nodes : List Digest} (nonempty : flags ≠ [])
    (denoteLeaves : Denote leaves digests) (denoteProof : Denote proof nodes) {root : Digest} :
    reconstruct builder limits proof flags leaves = .ok (some root) ↔
      limits.Within leaves proof flags ∧
        ∃ made, Queue.run builder.join nodes.length 0 (flags.map Value.truth) ⟨digests, nodes, []⟩ =
          .ok ⟨[root], [], made⟩ := by
  have leafCount : leaves.length = digests.length := denoteLeaves.length_eq
  have nodeCount : proof.length = nodes.length := denoteProof.length_eq
  have truths : flags.map Value.truth ≠ [] := by simpa using nonempty
  constructor
  · intro made
    have within := within_of_reconstruct made
    by_cases fit : leaves.length + proof.length = flags.length + 1
    · rw [reconstruct_of_fit within nonempty fit denoteLeaves denoteProof,
        combine_eq_some_iff truths (by simp; omega)] at made
      exact ⟨within, made⟩
    · rw [reconstruct_of_mismatch within nonempty fit] at made
      cases made
  · -- A run down to one value has used up as many values as the rule for the lengths asks for.
    rintro ⟨within, made, ran⟩
    have counts := List.count_true_add_count_false (flags.map Value.truth)
    obtain ⟨pending, unread, _⟩ := Queue.run_lengths ran
    simp only [List.length_cons, List.length_nil, List.length_map] at pending unread counts
    have fit : leaves.length + proof.length = flags.length + 1 := by omega
    rw [reconstruct_of_fit within nonempty fit denoteLeaves denoteProof,
      combine_eq_some_iff truths (by simp; omega)]
    exact ⟨made, ran⟩

/-- With flags, a root is reconstructed only from one leaf more than there are true flags and from one
node for each false flag. -/
theorem counts_of_reconstruct (nonempty : flags ≠ []) {root : Digest}
    (made : reconstruct builder limits proof flags leaves = .ok (some root)) :
    (flags.map Value.truth).count true + 1 = leaves.length ∧
      (flags.map Value.truth).count false = proof.length := by
  obtain ⟨digests, nodes, denoteLeaves, denoteProof⟩ := exists_denote_of_reconstruct nonempty made
  obtain ⟨_, made, ran⟩ := (reconstruct_eq_some_iff nonempty denoteLeaves denoteProof).mp made
  obtain ⟨pending, unread, _⟩ := Queue.run_lengths ran
  rw [denoteLeaves.length_eq, denoteProof.length_eq]
  simp only [List.length_singleton, List.length_nil] at pending unread
  omega

theorem reconstruct_of_run {digests nodes : List Digest} (within : limits.Within leaves proof flags)
    (denoteLeaves : Denote leaves digests) (denoteProof : Denote proof nodes) {root : Digest}
    {made : List Digest}
    (ran : Queue.run builder.join nodes.length 0 (flags.map Value.truth) ⟨digests, nodes, []⟩ =
      .ok ⟨[root], [], made⟩) :
    reconstruct builder limits proof flags leaves = .ok (some root) := by
  by_cases none : flags = []
  · subst none
    cases ran
    rw [reconstruct_no_flags within denoteLeaves denoteProof]
    rfl
  · exact (reconstruct_eq_some_iff none denoteLeaves denoteProof).mpr ⟨within, made, ran⟩

theorem processMultiProof_eq :
    processMultiProof builder limits proof flags leaves =
      match reconstruct builder limits proof flags leaves with
      | .ok (some computed) => .ok computed
      | .ok none =>
        .error (.multiProof (.totalHashes leaves.length proof.length flags.length))
      | .error failure => .error failure := by
  unfold processMultiProof
  match reconstruct builder limits proof flags leaves with
  | .error failure => rfl
  | .ok none => rfl
  | .ok (some computed) => rfl

theorem processMultiProof_eq_ok_iff {root : Digest} :
    processMultiProof builder limits proof flags leaves = .ok root ↔
      reconstruct builder limits proof flags leaves = .ok (some root) := by
  rw [processMultiProof_eq]
  split <;> simp_all

theorem verifyMultiProof_eq_true_iff {root : Value} :
    (verifyMultiProof builder limits proof flags root leaves).result = .ok true ↔
      ∃ computed, reconstruct builder limits proof flags leaves = .ok (some computed) ∧
        root.toDigest = .ok computed := by
  unfold verifyMultiProof
  match reconstruct builder limits proof flags leaves with
  | .error failure => cases failure <;> simp [Outcome.quiet]
  | .ok none => simp [Outcome.quiet]
  | .ok (some computed) =>
    cases read : root.toDigest with
    | error failure => simp [Outcome.quiet, Except.map]
    | ok digest => simpa [Outcome.quiet, Except.map] using eq_comm

end

end Inclusion
