import Inclusion.Text.UpperCase
import Mathlib.Data.List.Basic

/-! Capitals are their own upper case. What a letter is turned into, one capital or several, is left as
it is when it is turned again, so that a text in upper case stays what it is. -/

set_option autoImplicit false

namespace Inclusion.Text

namespace CaseRun

def codesFrom (run : CaseRun) (start : Nat) : List Nat :=
  (List.range ((run.last - run.first) / run.stride + 1)).map (start + run.stride * ·)

theorem mem_codesFrom {run : CaseRun} {code : Nat} (covered : run.covers code = true) (start : Nat) :
    start + (code - run.first) ∈ run.codesFrom start := by
  simp only [covers, Bool.and_eq_true, decide_eq_true_eq, beq_iff_eq] at covered
  obtain ⟨⟨_, last⟩, even⟩ := covered
  have within : code - run.first ≤ run.last - run.first := Nat.sub_le_sub_right last _
  have steps : run.stride * ((code - run.first) / run.stride) = code - run.first :=
    Nat.mul_div_cancel' (Nat.dvd_of_mod_eq_zero even)
  refine List.mem_map.mpr ⟨(code - run.first) / run.stride, ?_, by rw [steps]⟩
  exact List.mem_range.mpr (Nat.lt_succ_of_le (Nat.div_le_div_right within))

theorem mem_letters {run : CaseRun} {code : Nat} (covered : run.covers code = true) :
    code ∈ run.codesFrom run.first := by
  have first : run.first ≤ code := by
    simp only [covers, Bool.and_eq_true, decide_eq_true_eq] at covered
    exact covered.1.1
  have member := mem_codesFrom covered run.first
  rwa [Nat.add_sub_cancel' first] at member

end CaseRun

/-! ## Letters and capitals -/

def letterCodes : List Nat :=
  capitalRuns.flatMap (fun run => run.codesFrom run.first) ++ capitalSequences.map Prod.fst

def capitalImages : List Nat :=
  capitalRuns.flatMap (fun run => run.codesFrom run.image) ++ capitalSequences.flatMap Prod.snd

/-- A set of codes as a number: the bits at these places are set. -/
def bitSet (codes : List Nat) : Nat :=
  codes.foldr (fun code others => 1 <<< code ||| others) 0

theorem testBit_bitSet {codes : List Nat} {code : Nat} :
    (bitSet codes).testBit code = true ↔ code ∈ codes := by
  induction codes with
  | nil => simp [bitSet]
  | cons first codes ih =>
    have both : bitSet (first :: codes) = 1 <<< first ||| bitSet codes := rfl
    simp [both, Nat.testBit_or, Nat.one_shiftLeft, Nat.testBit_two_pow, ih, eq_comm (a := first)]

-- Both sets at once, because going through all pairs of codes would take long.
theorem bitSet_apart : bitSet letterCodes &&& bitSet capitalImages = 0 := by
  decide +kernel

theorem isValidChar_of_mem : ∀ code ∈ capitalImages, code.isValidChar := by
  decide +kernel

theorem not_mem_letterCodes {capital : Nat} (image : capital ∈ capitalImages) :
    capital ∉ letterCodes := by
  intro letter
  have both : (bitSet letterCodes &&& bitSet capitalImages).testBit capital = true := by
    rw [Nat.testBit_and, testBit_bitSet.mpr letter, testBit_bitSet.mpr image]
    rfl
  rw [bitSet_apart, Nat.zero_testBit] at both
  cases both

theorem capitalCodes_cases (code : Nat) :
    capitalCodes code = [code] ∨
      (code ∈ letterCodes ∧ ∀ capital ∈ capitalCodes code, capital ∈ capitalImages) := by
  unfold capitalCodes
  cases found : CaseRun.image? capitalRuns code with
  | some capital =>
    obtain ⟨run, first, rfl⟩ := Option.map_eq_some_iff.mp found
    have among := List.mem_of_find?_eq_some first
    have covers : run.covers code = true := List.find?_some (p := (CaseRun.covers · code)) first
    refine .inr ⟨List.mem_append_left _ ?_, fun capital only => List.mem_append_left _ ?_⟩
    · exact List.mem_flatMap.mpr ⟨run, among, CaseRun.mem_letters covers⟩
    · obtain rfl := List.mem_singleton.mp only
      exact List.mem_flatMap.mpr ⟨run, among, CaseRun.mem_codesFrom covers run.image⟩
  | none =>
    cases sequence : capitalSequences.lookup code with
    | some capitals =>
      obtain ⟨before, after, split, _⟩ := List.lookup_eq_some_iff.mp sequence
      have among : (code, capitals) ∈ capitalSequences := by simp [split]
      refine .inr ⟨List.mem_append_right _ ?_, fun capital member => List.mem_append_right _ ?_⟩
      · exact List.mem_map.mpr ⟨_, among, rfl⟩
      · exact List.mem_flatMap.mpr ⟨_, among, member⟩
    | none => exact .inl rfl

theorem capitalCodes_of_not_mem {code : Nat} (other : code ∉ letterCodes) :
    capitalCodes code = [code] :=
  (capitalCodes_cases code).resolve_right fun ⟨letter, _⟩ => other letter

/-! ## Upper case twice -/

theorem toUpper_of_mem {character capital : Char} (member : capital ∈ toUpper character) :
    toUpper capital = [capital] := by
  obtain ⟨code, made, rfl⟩ := List.mem_map.mp member
  rcases capitalCodes_cases character.toNat with itself | ⟨_, images⟩
  · rw [itself, List.mem_singleton] at made
    rw [made, Char.ofNat_toNat, toUpper, itself, List.map_singleton, Char.ofNat_toNat]
  · have valid := isValidChar_of_mem code (images code made)
    have back : (Char.ofNat code).toNat = code := by
      rw [Char.ofNat, dif_pos valid]
      exact UInt32.toNat_ofNatLT
    rw [toUpper, back, capitalCodes_of_not_mem (not_mem_letterCodes (images code made)),
      List.map_singleton]

theorem flatMap_toUpper (character : Char) :
    (toUpper character).flatMap toUpper = toUpper character := by
  rw [List.flatMap_congr fun capital member => toUpper_of_mem member, List.flatMap_singleton']

theorem upperCase_upperCase (text : String) : upperCase (upperCase text) = upperCase text := by
  simp [upperCase, List.flatMap_assoc, flatMap_toUpper]

end Inclusion.Text
