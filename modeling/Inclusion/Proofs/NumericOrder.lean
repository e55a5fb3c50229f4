import Inclusion.Conversion
import Mathlib.Data.Set.Image
import Mathlib.Order.Interval.Set.Defs
import Mathlib.Tactic.Ring

/-! Digests as numbers. Octet strings are compared like words, from the first octet on, and numbers by
all of their digits. For strings of one width it comes to the same, because what follows the first
difference weighs less than this difference. -/

set_option autoImplicit false

namespace Inclusion

namespace Octets

theorem foldl_eq (octets : Octets) (total : Nat) :
    octets.foldl (fun total octet => 256 * total + octet.toNat) total =
      256 ^ octets.length * total + octets.value := by
  induction octets generalizing total with
  | nil => simp [value]
  | cons octet rest ih =>
    have head : value (octet :: rest) =
        rest.foldl (fun total octet => 256 * total + octet.toNat) (256 * 0 + octet.toNat) := rfl
    rw [List.foldl_cons, ih, head, ih, List.length_cons, Nat.pow_succ]
    ring

theorem value_cons (octet : UInt8) (rest : Octets) :
    value (octet :: rest) = 256 ^ rest.length * octet.toNat + value rest := by
  have head : value (octet :: rest) =
      rest.foldl (fun total octet => 256 * total + octet.toNat) (256 * 0 + octet.toNat) := rfl
  rw [head, foldl_eq, Nat.mul_zero, Nat.zero_add]

theorem value_lt (octets : Octets) : octets.value < 256 ^ octets.length := by
  induction octets with
  | nil => exact Nat.one_pos
  | cons octet rest ih =>
    have most : octet.toNat + 1 ≤ 256 := octet.toNat_lt
    calc value (octet :: rest) = 256 ^ rest.length * octet.toNat + value rest := value_cons octet rest
      _ < 256 ^ rest.length * (octet.toNat + 1) := by rw [Nat.mul_succ]; omega
      _ ≤ 256 ^ rest.length * 256 := Nat.mul_le_mul_left _ most

theorem value_lt_of_head {first second : UInt8} (less : first < second) {rest others : Octets}
    (width : rest.length = others.length) : value (first :: rest) < value (second :: others) := by
  have above : first.toNat + 1 ≤ second.toNat := UInt8.lt_iff_toNat_lt.mp less
  calc value (first :: rest) = 256 ^ rest.length * first.toNat + value rest := value_cons first rest
    _ < 256 ^ rest.length * (first.toNat + 1) := by rw [Nat.mul_succ]; have := value_lt rest; omega
    _ ≤ 256 ^ rest.length * second.toNat := Nat.mul_le_mul_left _ above
    _ ≤ value (second :: others) := by rw [value_cons, width]; exact Nat.le_add_right _ _

theorem lt_iff_value_lt {first second : Octets} (width : first.length = second.length) :
    first < second ↔ first.value < second.value := by
  induction first generalizing second with
  | nil =>
    obtain rfl := List.length_eq_zero_iff.mp width.symm
    simp
  | cons octet rest ih =>
    obtain _ | ⟨other, others⟩ := second
    · cases width
    have same : rest.length = others.length := Nat.succ.inj width
    rw [List.cons_lt_cons_iff]
    -- The first octets decide, unless they are equal and add the same to both numbers.
    rcases Nat.lt_trichotomy octet.toNat other.toNat with less | equal | greater
    · have less : octet < other := UInt8.lt_iff_toNat_lt.mpr less
      simp [less, value_lt_of_head less same]
    · obtain rfl := UInt8.toNat_inj.mp equal
      simp [value_cons, same, ih same]
    · have greater : other < octet := UInt8.lt_iff_toNat_lt.mpr greater
      have more := value_lt_of_head greater same.symm
      have different : octet ≠ other := (UInt8.ne_of_lt greater).symm
      simp [UInt8.lt_asymm greater, different, Nat.le_of_lt more]

theorem eq_iff_value_eq {first second : Octets} (width : first.length = second.length) :
    first = second ↔ first.value = second.value := by
  constructor
  · exact congrArg value
  · intro same
    have notLess : ¬first < second := by rw [lt_iff_value_lt width]; omega
    have notGreater : ¬second < first := by rw [lt_iff_value_lt width.symm]; omega
    exact List.le_antisymm notGreater notLess

/-- Every number that a width has room for is encoded. -/
theorem exists_value_eq (width : Nat) {number : Nat} (small : number < 256 ^ width) :
    ∃ octets : Octets, octets.length = width ∧ octets.value = number := by
  induction width generalizing number with
  | zero => exact ⟨[], rfl, (Nat.lt_one_iff.mp small).symm⟩
  | succ width ih =>
    have positive : 0 < 256 ^ width := Nat.pow_pos (by decide)
    have high : number / 256 ^ width < 256 := by
      rw [Nat.div_lt_iff_lt_mul positive, Nat.mul_comm]
      exact small
    have low : number % 256 ^ width < 256 ^ width := Nat.mod_lt number positive
    obtain ⟨rest, length, encodes⟩ := ih low
    refine ⟨UInt8.ofNat (number / 256 ^ width) :: rest, by rw [List.length_cons, length], ?_⟩
    rw [value_cons, length, encodes, UInt8.toNat_ofNat_of_lt' high]
    exact Nat.div_add_mod number (256 ^ width)

/-- Where the widths differ the orders do: one and the same number, in one octet and in two. -/
example : ([0, 1] : Octets) < [1] ∧ value [0, 1] = value [1] := by decide

end Octets

namespace Digest
variable {first second : Digest}

theorem sameWidth (first second : Digest) : first.octets.length = second.octets.length :=
  first.width.trans second.width.symm

theorem lt_iff_value_lt : first < second ↔ first.value < second.value :=
  Octets.lt_iff_value_lt (sameWidth first second)

theorem octets_eq_iff_value_eq : first.octets = second.octets ↔ first.value = second.value :=
  Octets.eq_iff_value_eq (sameWidth first second)

theorem value_injective : Function.Injective value :=
  fun _ _ same => ext_octets (octets_eq_iff_value_eq.mpr same)

theorem range_value : Set.range value = Set.Iio (2 ^ 256) := by
  have room : 256 ^ digestWidth = 2 ^ 256 := by decide
  ext number
  rw [Set.mem_Iio, ← room]
  constructor
  · rintro ⟨digest, rfl⟩
    exact digest.width ▸ Octets.value_lt digest.octets
  · intro small
    obtain ⟨octets, width, value⟩ := Octets.exists_value_eq digestWidth small
    exact ⟨⟨octets, width⟩, value⟩

theorem sort_perm (digests : List Digest) : (sort digests).Perm digests :=
  List.mergeSort_perm digests _

theorem sort_ascending (digests : List Digest) :
    (sort digests).Pairwise fun first second => first.value ≤ second.value := by
  have atMost (first second : Digest) :
      (!decide (second < first)) = true ↔ first.value ≤ second.value := by
    simp [lt_iff_value_lt]
  have transitive (first second third : Digest) : (!decide (second < first)) = true →
      (!decide (third < second)) = true → (!decide (third < first)) = true := by
    simpa only [atMost] using Nat.le_trans
  have total (first second : Digest) :
      (!decide (second < first) || !decide (first < second)) = true := by
    simpa only [Bool.or_eq_true, atMost] using Nat.le_total _ _
  have sorted := List.pairwise_mergeSort transitive total digests
  exact sorted.imp fun {first second} => (atMost first second).mp

end Digest

/-- How two digests compare is how their numbers compare, in each of the six questions. The numbers are
those below `2 ^ 256`, each of exactly one digest, and sorting puts digests in ascending order of their
numbers. -/
theorem digests_compare_as_numbers :
    (∀ first second : Digest, ∃ answers,
      (Value.orderedOctets (.digest first) (.digest second)).map (fun both =>
        Comparison.of both.1 both.2) = .ok answers ∧
      (answers.less = true ↔ first.value < second.value) ∧
      (answers.atMost = true ↔ first.value ≤ second.value) ∧
      (answers.equal = true ↔ first.value = second.value) ∧
      (answers.unequal = true ↔ first.value ≠ second.value) ∧
      (answers.atLeast = true ↔ first.value ≥ second.value) ∧
      (answers.greater = true ↔ first.value > second.value)) ∧
    Function.Injective Digest.value ∧ Set.range Digest.value = Set.Iio (2 ^ 256) ∧
    ∀ digests : List Digest, (Digest.sort digests).Perm digests ∧
      (Digest.sort digests).Pairwise fun first second => first.value ≤ second.value := by
  refine ⟨fun first second => ⟨Comparison.of first.octets second.octets, rfl, ?_⟩,
    Digest.value_injective, Digest.range_value, fun digests =>
      ⟨Digest.sort_perm digests, Digest.sort_ascending digests⟩⟩
  have less : first.octets < second.octets ↔ first.value < second.value := Digest.lt_iff_value_lt
  have greater : second.octets < first.octets ↔ second.value < first.value := Digest.lt_iff_value_lt
  have equal : first.octets = second.octets ↔ first.value = second.value :=
    Digest.octets_eq_iff_value_eq
  -- The other three answers are made of these.
  have atMost : first.value < second.value ∨ first.value = second.value ↔
      first.value ≤ second.value := Nat.le_iff_lt_or_eq.symm
  have atLeast : second.value < first.value ∨ first.value = second.value ↔
      first.value ≥ second.value := by
    rw [eq_comm]
    exact Nat.le_iff_lt_or_eq.symm
  simp [Comparison.of, Comparison.unequal, Comparison.atMost, Comparison.atLeast, less, greater,
    equal, atMost, atLeast]

end Inclusion
