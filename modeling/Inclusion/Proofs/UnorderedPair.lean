import Mathlib.Data.Sym.Sym2
import Inclusion.Proofs.PairHash

/-! Pairs without an order. Hashing a pair in ascending order feeds the hasher one message, whichever
side is named first, and for digests this message tells the pair. Two pairs with one hash are thus the
same pair, or their messages collide. -/

set_option autoImplicit false

namespace Inclusion

namespace Octets

structure Ordered (first second smaller larger : Octets) : Prop where
  same : s(smaller, larger) = s(first, second)
  ascending : ¬larger < smaller

/-- The message that hashers are fed, chunk by chunk, when a pair is hashed by whatever builder. -/
def Feeds (first second message : Octets) : Prop :=
  ∃ chunks, chunks.flatten = message ∧
    ∀ builder : HashBuilder, builder.hashSorted first second = builder.hash chunks

theorem exists_ordered (first second : Octets) :
    ∃ smaller larger, Ordered first second smaller larger := by
  by_cases greater : second < first
  · exact ⟨second, first, Sym2.eq_swap, List.lt_asymm greater⟩
  · exact ⟨first, second, rfl, greater⟩

end Octets

namespace HashBuilder

def ofFunction (h : Octets → Digest) : HashBuilder where
  Hasher := Octets
  fresh := []
  update := fun kept octets => .ok (kept ++ octets)
  finalize := fun kept => (kept, (h kept).octets)

theorem feed_ofFunction (h : Octets → Digest) (kept : Octets) (chunks : List Octets) :
    (ofFunction h).feed kept chunks = .ok (kept ++ chunks.flatten : Octets) := by
  induction chunks generalizing kept with
  | nil => rw [List.flatten_nil, List.append_nil]; rfl
  | cons chunk chunks ih =>
    change (ofFunction h).feed (kept ++ chunk : Octets) chunks = _
    rw [ih, List.flatten_cons, List.append_assoc]

theorem computes_ofFunction (h : Octets → Digest) : (ofFunction h).Computes h :=
  fun chunks => hash_of_feed (feed_ofFunction h [] chunks) _ rfl

theorem hashSorted_of_ordered (builder : HashBuilder) {first second smaller larger : Octets}
    (ordered : Octets.Ordered first second smaller larger) :
    builder.hashSorted first second = builder.hashPair smaller larger := by
  have sorted : builder.hashSorted smaller larger = builder.hashPair smaller larger := by
    unfold HashBuilder.hashSorted
    by_cases less : smaller < larger
    · rw [if_pos less]
    · -- Neither comes before the other, and so they are one.
      rw [if_neg less, List.le_antisymm ordered.ascending less]
  rcases Sym2.eq_iff.mp ordered.same with ⟨rfl, rfl⟩ | ⟨rfl, rfl⟩
  · exact sorted
  · rw [hashSorted_comm, sorted]

end HashBuilder

namespace Octets
variable {first second message : Octets}

theorem feeds_ascending (first second : Octets) : Feeds first second (first.ascending second) := by
  by_cases less : first < second
  · refine ⟨[first, second], ?_, fun builder => ?_⟩
    · simp [ascending, less]
    · simp only [HashBuilder.hashSorted, if_pos less, HashBuilder.hashPair]
  · refine ⟨[second, first], ?_, fun builder => ?_⟩
    · simp [ascending, less]
    · simp only [HashBuilder.hashSorted, if_neg less, HashBuilder.hashPair]

/-- Hashers that keep what they are fed would tell two messages apart. -/
theorem Feeds.unique {other : Octets} (feeds : Feeds first second message)
    (feedsOther : Feeds first second other) : message = other := by
  obtain ⟨chunks, rfl, fed⟩ := feeds
  obtain ⟨others, rfl, fedOther⟩ := feedsOther
  by_contra different
  let one : Digest := ⟨List.replicate digestWidth 1, List.length_replicate⟩
  let h : Octets → Digest := fun octets => if octets = chunks.flatten then .zero else one
  have same := (fed (.ofFunction h)).symm.trans (fedOther (.ofFunction h))
  rw [HashBuilder.computes_ofFunction h, HashBuilder.computes_ofFunction h, Except.ok.injEq] at same
  simp only [h, if_neg (Ne.symm different), if_true] at same
  exact absurd same (by decide)

theorem feeds_iff : Feeds first second message ↔ message = first.ascending second :=
  ⟨fun feeds => feeds.unique (feeds_ascending first second), fun same =>
    same ▸ feeds_ascending first second⟩

end Octets

theorem Digest.pairMessage_eq_iff {first second third fourth : Digest} :
    first.pairMessage second = third.pairMessage fourth ↔ s(first, second) = s(third, fourth) := by
  rw [Sym2.eq_iff]
  constructor
  · exact eq_or_swap_of_pairMessage
  · rintro (⟨rfl, rfl⟩ | ⟨rfl, rfl⟩)
    · rfl
    · exact pairMessage_comm first second

/-- Octets are hashed as a pair in the order of a dictionary, from whichever side they come. Pairs of
digests feed one message, of as many octets as two digests have, exactly where they are the same pair in
either order, so that different pairs with one hash exhibit a collision. -/
theorem pair_hash_tells_unordered_pair :
    (∀ (builder : HashBuilder) (first second : Octets),
      builder.hashSorted first second = builder.hashSorted second first ∧
      (∃ smaller larger, Octets.Ordered first second smaller larger) ∧
      ∀ smaller larger, Octets.Ordered first second smaller larger →
        builder.hashSorted first second = builder.hashPair smaller larger) ∧
    (∀ first second third fourth : Digest,
      (∃ message, message.length = 64 ∧ Octets.Feeds first.octets second.octets message ∧
        Octets.Feeds third.octets fourth.octets message) ↔
        s(first, second) = s(third, fourth)) ∧
    ∀ (builder : HashBuilder) (h : Octets → Digest), builder.Computes h →
      ∀ first second third fourth : Digest,
        builder.hashSorted first.octets second.octets =
            builder.hashSorted third.octets fourth.octets →
          s(first, second) ≠ s(third, fourth) →
            ∃ message other, Octets.Feeds first.octets second.octets message ∧
              Octets.Feeds third.octets fourth.octets other ∧ Octets.Collide h message other := by
  refine ⟨fun builder first second => ⟨?_, ?_, ?_⟩, ?_, ?_⟩
  · exact builder.hashSorted_comm first second
  · exact Octets.exists_ordered first second
  · exact fun _ _ => builder.hashSorted_of_ordered
  · intro first second third fourth
    rw [← Digest.pairMessage_eq_iff]
    constructor
    · rintro ⟨message, _, feeds, feedsOther⟩
      exact (Octets.feeds_iff.mp feeds).symm.trans (Octets.feeds_iff.mp feedsOther)
    · intro same
      exact ⟨first.pairMessage second, Digest.length_pairMessage first second,
        Octets.feeds_iff.mpr rfl, Octets.feeds_iff.mpr same⟩
  · intro builder h computes first second third fourth same different
    refine ⟨first.pairMessage second, third.pairMessage fourth, Octets.feeds_ascending _ _,
      Octets.feeds_ascending _ _, Digest.length_pairMessage _ _, Digest.length_pairMessage _ _,
      fun equal => different (Digest.pairMessage_eq_iff.mp equal), ?_⟩
    rw [computes.hashSorted, computes.hashSorted] at same
    exact Except.ok.inj same

/-- A prefix comes before what it starts, and where all messages have one digest, two pairs of which
only one has equal halves collide. -/
theorem pair_hash_tells_unordered_pair_of_constant :
    let one : Digest := ⟨List.replicate digestWidth 1, List.length_replicate⟩
    let builder := HashBuilder.ofFunction fun _ => .zero
    builder.hashSorted [1, 0] [1] = builder.hashPair [1] [1, 0] ∧
      s(Digest.zero, one) ≠ s(one, one) ∧
      ∃ message other, Octets.Feeds Digest.zero.octets one.octets message ∧
        Octets.Feeds one.octets one.octets other ∧
        Octets.Collide (fun _ => .zero) message other := by
  intro one builder
  have different : s(Digest.zero, one) ≠ s(one, one) := by
    rw [ne_eq, Sym2.eq_iff]
    decide
  obtain ⟨sorted, _, clash⟩ := pair_hash_tells_unordered_pair
  refine ⟨(sorted builder [1, 0] [1]).2.2 [1] [1, 0] ⟨Sym2.eq_swap, by decide⟩, different, ?_⟩
  exact clash builder _ (HashBuilder.computes_ofFunction _) .zero one one one rfl different

end Inclusion
