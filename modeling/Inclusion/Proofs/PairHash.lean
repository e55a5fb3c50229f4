import Inclusion.Hash.Builder

/-! What is fed to a hasher when a pair is hashed: one message, the smaller octets before the larger.
Digests can be read off that message up to their order. The three named builders hash every message,
and by one function of it, however it is cut into chunks. -/

set_option autoImplicit false

namespace Inclusion

def Octets.ascending (first second : Octets) : Octets :=
  if first < second then first ++ second else second ++ first

theorem Octets.choice_comm {α : Type} (choice : Octets → Octets → α) (first second : Octets) :
    (if first < second then choice first second else choice second first) =
      if second < first then choice second first else choice first second := by
  by_cases less : first < second
  · rw [if_pos less, if_neg (List.lt_asymm less)]
  · by_cases greater : second < first
    · rw [if_neg less, if_pos greater]
    · -- Where neither is smaller the two are one, and there is nothing to choose.
      have same : first = second := List.le_antisymm greater less
      rw [same]

namespace Digest

def pairMessage (first second : Digest) : Octets := first.octets.ascending second.octets

theorem length_pairMessage (first second : Digest) :
    (first.pairMessage second).length = 2 * digestWidth := by
  unfold pairMessage Octets.ascending
  split <;> simp [first.width, second.width, Nat.two_mul]

theorem eq_of_append {first second third fourth : Digest}
    (same : first.octets ++ second.octets = third.octets ++ fourth.octets) :
    first = third ∧ second = fourth := by
  obtain ⟨left, right⟩ := List.append_inj same (first.width.trans third.width.symm)
  exact ⟨ext_octets left, ext_octets right⟩

/-- Two pairs of digests have one message only if they are the same pair, in either order. -/
theorem eq_or_swap_of_pairMessage {first second third fourth : Digest}
    (same : first.pairMessage second = third.pairMessage fourth) :
    (first = third ∧ second = fourth) ∨ (first = fourth ∧ second = third) := by
  -- Both pairs may have been turned, which leaves four ways to read the one message.
  unfold pairMessage Octets.ascending at same
  split at same <;> split at same
  · exact .inl (eq_of_append same)
  · exact .inr (eq_of_append same)
  · exact .inr (eq_of_append same).symm
  · exact .inl (eq_of_append same).symm

theorem pairMessage_comm (first second : Digest) :
    first.pairMessage second = second.pairMessage first :=
  Octets.choice_comm (· ++ ·) first.octets second.octets

theorem pairMessage_ne {first second : Digest} (different : first ≠ second) (other : Digest) :
    first.pairMessage other ≠ second.pairMessage other := by
  intro same
  obtain ⟨equal, _⟩ | ⟨left, right⟩ := eq_or_swap_of_pairMessage same
  · exact different equal
  · exact different (left.trans right)

end Digest

/-- Two different messages, each as wide as a pair of digests, with one digest. -/
structure Octets.Collide (h : Octets → Digest) (first second : Octets) : Prop where
  firstLength : first.length = 2 * digestWidth
  secondLength : second.length = 2 * digestWidth
  different : first ≠ second
  same : h first = h second

namespace HashBuilder

def Total (builder : HashBuilder) : Prop :=
  ∀ chunks, ∃ digest, builder.hash chunks = .ok digest

/-- What a fresh hasher gives in the end is a function of all octets fed to it. -/
def Computes (builder : HashBuilder) (h : Octets → Digest) : Prop :=
  ∀ chunks, builder.hash chunks = .ok (h chunks.flatten)

theorem Computes.total {builder : HashBuilder} {h : Octets → Digest}
    (computes : builder.Computes h) : builder.Total :=
  fun chunks => ⟨h chunks.flatten, computes chunks⟩

theorem hashSorted_comm (builder : HashBuilder) (first second : Octets) :
    builder.hashSorted first second = builder.hashSorted second first :=
  Octets.choice_comm builder.hashPair first second

theorem Total.hashSorted {builder : HashBuilder} (total : builder.Total)
    (first second : Octets) : ∃ digest, builder.hashSorted first second = .ok digest := by
  unfold HashBuilder.hashSorted
  split
  · exact total [first, second]
  · exact total [second, first]

theorem Computes.hashSorted {builder : HashBuilder} {h : Octets → Digest}
    (computes : builder.Computes h) (first second : Digest) :
    builder.hashSorted first.octets second.octets = .ok (h (first.pairMessage second)) := by
  unfold HashBuilder.hashSorted hashPair Digest.pairMessage Octets.ascending
  split <;> simp [computes _]

theorem feed_ofBlockHash (hash : BlockHash) (progress : hash.Progress) (chunks : List Octets) :
    (ofBlockHash hash).feed progress chunks = .ok (progress.feed chunks.flatten) := by
  induction chunks generalizing progress with
  | nil => rfl
  | cons chunk chunks ih =>
    change (ofBlockHash hash).feed (progress.feed chunk) chunks = _
    rw [ih, List.flatten_cons, BlockHash.Progress.feed_append]

-- Until it is finalized, a hasher that will be sealed takes octets like any other.
theorem feed_sealing (hash : BlockHash) (progress : hash.Progress) (chunks : List Octets) :
    (sealing hash).feed (progress, false) chunks = .ok (progress.feed chunks.flatten, false) := by
  induction chunks generalizing progress with
  | nil => rfl
  | cons chunk chunks ih =>
    change (sealing hash).feed (progress.feed chunk, false) chunks = _
    rw [ih, List.flatten_cons, BlockHash.Progress.feed_append]

theorem hash_of_feed {builder : HashBuilder} {chunks : List Octets} {hasher : builder.Hasher}
    (fed : builder.feed builder.fresh chunks = .ok hasher) (digest : Digest)
    (finished : (builder.finalize hasher).2 = digest.octets) :
    builder.hash chunks = .ok digest := by
  unfold hash
  rw [fed]
  change accept (builder.finalize hasher).2 = _
  rw [accept, finished, Digest.ofOctets_octets]
  rfl

end HashBuilder

def BlockHash.digestOf (hash : BlockHash)
    (width : ∀ state, (hash.output state).length = digestWidth) (message : Octets) : Digest where
  octets := (Progress.start.feed message : hash.Progress).finish
  width := width _

namespace HashBuilder
variable {hash : BlockHash} (width : ∀ state, (hash.output state).length = digestWidth)

theorem computes_ofBlockHash : (ofBlockHash hash).Computes (hash.digestOf width) :=
  fun chunks => hash_of_feed (feed_ofBlockHash hash .start chunks) _ rfl

theorem computes_sealing : (sealing hash).Computes (hash.digestOf width) :=
  fun chunks => hash_of_feed (feed_sealing hash .start chunks) _ rfl

end HashBuilder

theorem HashName.computes (name : HashName) : ∃ h, name.builder.Computes h := by
  cases name with
  | keccak256 => exact ⟨_, HashBuilder.computes_sealing Keccak.length_output⟩
  | sha256 => exact ⟨_, HashBuilder.computes_ofBlockHash Sha256.length_output⟩
  | sha3 => exact ⟨_, HashBuilder.computes_ofBlockHash Keccak.length_output⟩

theorem HashName.total (name : HashName) : name.builder.Total := by
  obtain ⟨h, computes⟩ := name.computes
  exact computes.total

end Inclusion
