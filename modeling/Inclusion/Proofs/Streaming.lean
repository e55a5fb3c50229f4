import Inclusion.Proofs.PairHash

/-! Hashes in progress against whole messages. Octets are taken one by one and a block is absorbed when
it is full, so that in the end the state is the one that the blocks of the padded message lead to. -/

set_option autoImplicit false

namespace Inclusion

namespace BlockHash

/-! ## Cutting into blocks -/

theorem blocks_of_short {size : Nat} {octets : Octets} (short : octets.length < size) :
    blocks size octets = [] := by
  simp [blocks, Nat.div_eq_of_lt short]

theorem blocks_append {size : Nat} {block : Octets} (positive : 0 < size)
    (full : block.length = size) (rest : Octets) :
    blocks size (block ++ rest) = block :: blocks size rest := by
  have count : (block ++ rest).length / size = rest.length / size + 1 := by
    rw [List.length_append, full, Nat.add_div_left _ positive]
  have first : ((block ++ rest).drop (0 * size)).take size = block := by
    rw [Nat.zero_mul, List.drop_zero, ← full, List.take_left]
  have later (position : Nat) :
      (block ++ rest).drop ((position + 1) * size) = rest.drop (position * size) := by
    rw [Nat.add_mul, Nat.one_mul, Nat.add_comm, ← List.drop_drop, ← full, List.drop_left]
  unfold blocks
  rw [count, List.range_succ_eq_map, List.map_cons, List.map_map, first]
  congr 1
  apply List.map_congr_left
  intro position _
  simp only [Function.comp, Nat.succ_eq_add_one, later]

theorem blocks_flatten_append {size : Nat} (positive : 0 < size) {full : List Octets}
    (width : ∀ block ∈ full, block.length = size) {rest : Octets} (short : rest.length < size) :
    blocks size (full.flatten ++ rest) = full := by
  induction full with
  | nil => exact blocks_of_short short
  | cons block full ih =>
    have others : ∀ other ∈ full, other.length = size := fun other member =>
      width other (List.mem_cons_of_mem _ member)
    rw [List.flatten_cons, List.append_assoc, blocks_append positive (width block List.mem_cons_self),
      ih others]

namespace Progress
variable {hash : BlockHash}

/-! ## What has been absorbed and what is held -/

/-- The full blocks of some octets are absorbed, and the rest of them is held. -/
structure Covers (progress : Progress hash) (octets : Octets) (full : List Octets) : Prop where
  width : ∀ block ∈ full, block.length = hash.blockSize
  parts : octets = full.flatten ++ progress.held.toList
  short : progress.held.size < hash.blockSize
  state : progress.state = full.foldl hash.absorb hash.start
  total : progress.total = octets.length

theorem start_covers (positive : 0 < hash.blockSize) : (start : Progress hash).Covers [] [] where
  width _ member := nomatch member
  parts := rfl
  short := positive
  state := rfl
  total := rfl

theorem Covers.feedOctet {progress : Progress hash} {octets : Octets} {full : List Octets}
    (covers : progress.Covers octets full) (octet : UInt8) :
    ∃ full, (progress.feedOctet octet).Covers (octets ++ [octet]) full := by
  obtain ⟨state, held, total⟩ := progress
  have parts : octets ++ [octet] = full.flatten ++ (held.push octet).toList := by
    rw [covers.parts, Array.toList_push, List.append_assoc]
  have counted : total + 1 = (octets ++ [octet]).length := by
    rw [List.length_append, List.length_singleton, ← covers.total]
  by_cases filled : (held.push octet).size = hash.blockSize
  · -- The block is absorbed, and nothing is held after it.
    have fed : Progress.feedOctet ⟨state, held, total⟩ octet =
        ⟨hash.absorb state (held.push octet).toList, #[], total + 1⟩ := by
      simp only [Progress.feedOctet, filled, beq_self_eq_true, if_true]
    rw [fed]
    refine ⟨full ++ [(held.push octet).toList], ?_, ?_, ?_, ?_, counted⟩
    · intro block member
      rcases List.mem_append.mp member with early | last
      · exact covers.width block early
      · rw [List.mem_singleton.mp last, Array.length_toList, filled]
    · rw [parts, List.flatten_append, List.flatten_singleton, List.append_nil]
    · exact Nat.zero_lt_of_lt covers.short
    · rw [List.foldl_append, ← covers.state]
      rfl
  · have fed : Progress.feedOctet ⟨state, held, total⟩ octet =
        ⟨state, held.push octet, total + 1⟩ := by
      simp only [Progress.feedOctet, beq_eq_false_iff_ne.mpr filled, Bool.false_eq_true, if_false]
    rw [fed]
    refine ⟨full, covers.width, parts, ?_, covers.state, counted⟩
    have room : held.size < hash.blockSize := covers.short
    rw [Array.size_push] at filled ⊢
    exact Nat.lt_of_le_of_ne room filled

theorem Covers.feed {progress : Progress hash} {octets : Octets} {full : List Octets}
    (covers : progress.Covers octets full) (more : Octets) :
    ∃ full, (progress.feed more).Covers (octets ++ more) full := by
  -- Each octet moves from what is to come to what was taken, which makes up the same octets.
  induction more generalizing progress octets full with
  | nil => exact ⟨full, by rwa [List.append_nil]⟩
  | cons octet more ih =>
    obtain ⟨next, taken⟩ := covers.feedOctet octet
    obtain ⟨last, covered⟩ := ih taken
    rw [List.append_assoc] at covered
    exact ⟨last, covered⟩

theorem Covers.state_eq {progress : Progress hash} {octets : Octets} {full : List Octets}
    (covers : progress.Covers octets full) :
    progress.state = (blocks hash.blockSize octets).foldl hash.absorb hash.start := by
  have positive : 0 < hash.blockSize := Nat.zero_lt_of_lt covers.short
  have cut : blocks hash.blockSize octets = full := by
    rw [covers.parts]
    exact blocks_flatten_append positive covers.width (by simpa using covers.short)
  rw [covers.state, cut]

theorem finish_feed (positive : 0 < hash.blockSize) (message : Octets) :
    (start.feed message : Progress hash).finish = hash.digest message := by
  obtain ⟨_, fed⟩ := (start_covers positive).feed message
  obtain ⟨_, padded⟩ := fed.feed (hash.padding (start.feed message : Progress hash).total)
  rw [finish, padded.state_eq, fed.total]
  rfl

end Progress

theorem octets_digestOf {hash : BlockHash} (positive : 0 < hash.blockSize)
    (width : ∀ state, (hash.output state).length = digestWidth) (message : Octets) :
    (hash.digestOf width message).octets = hash.digest message :=
  Progress.finish_feed positive message

end BlockHash

end Inclusion
