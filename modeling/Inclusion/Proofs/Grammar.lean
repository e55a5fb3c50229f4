import Mathlib.Data.List.DropRight
import Inclusion.Conversion
import Inclusion.Proofs.Spelling

/-! The grammar of spelled digests. Blanks of every sort may stand at the ends of a spelling, one radix
mark may come first, and then there are pairs of digits, with ASCII blanks around them but not within.
Reading accepts exactly these texts, and what they denote is decided by their digits alone. -/

set_option autoImplicit false

namespace Inclusion

namespace Text

/-! ## Blanks and digits -/

def asciiBlanks : List Char := [' ', '\t', '\n', '\x0B', '\x0C', '\r']

def smallDigits : List Char :=
  ['0', '1', '2', '3', '4', '5', '6', '7', '8', '9', 'a', 'b', 'c', 'd', 'e', 'f']

def capitalDigits : List Char :=
  ['0', '1', '2', '3', '4', '5', '6', '7', '8', '9', 'A', 'B', 'C', 'D', 'E', 'F']

def IsHexDigit (character : Char) (value : Nat) : Prop :=
  smallDigits[value]? = some character ∨ capitalDigits[value]? = some character

instance (character : Char) (value : Nat) : Decidable (IsHexDigit character value) :=
  inferInstanceAs (Decidable (_ ∨ _))

theorem isAsciiBlank_iff_mem {character : Char} :
    isAsciiBlank character = true ↔ character ∈ asciiBlanks := by
  have same (code : Char) : character = code ↔ character.val.toNat = code.val.toNat := by
    rw [← UInt32.toNat_inj.symm, Char.ext_iff]
  simp only [isAsciiBlank, asciiBlanks, List.mem_cons, List.not_mem_nil, or_false, same,
    UInt32.le_iff_toNat_le, UInt32.reduceToNat, Char.toNat_val, Bool.or_eq_true, beq_iff_eq,
    ← UInt32.toNat_inj, Bool.and_eq_true, decide_eq_true_eq, Char.reduceVal]
  omega

namespace IsHexDigit
variable {character : Char} {value : Nat} (digit : IsHexDigit character value)
include digit

theorem small : value < 16 := by
  rcases digit with found | found
  all_goals exact (List.getElem?_eq_some_iff.mp found).1

theorem lookup {P : Char → Nat → Prop}
    (entries : ∀ place ∈ List.range 16, P smallDigits[place]! place ∧ P capitalDigits[place]! place) :
    P character value := by
  obtain ⟨small, capital⟩ := entries value (List.mem_range.mpr digit.small)
  rcases digit with found | found
  · simpa [found] using small
  · simpa [found] using capital

theorem value_eq : hexDigitValue? character = some value :=
  digit.lookup (P := fun entry place => hexDigitValue? entry = some place) (by decide)

theorem toLower_eq : character.toLower = hexDigit value :=
  digit.lookup (P := fun entry place => entry.toLower = hexDigit place) (by decide)

theorem isBlank_eq : isBlank character = false :=
  digit.lookup (P := fun entry _ => isBlank entry = false) (by decide)

theorem isAsciiBlank_eq : isAsciiBlank character = false :=
  digit.lookup (P := fun entry _ => isAsciiBlank entry = false) (by decide)

end IsHexDigit

theorem hexDigitValue_eq_some_iff {character : Char} {value : Nat} :
    hexDigitValue? character = some value ↔ IsHexDigit character value := by
  constructor
  · intro read
    -- Digits are ASCII, so that the codes to be looked through are few.
    have bound : character.toNat < 128 := by
      unfold hexDigitValue? at read
      grind
    have all : ∀ code ∈ List.range 128, ∀ number ∈ hexDigitValue? (Char.ofNat code),
        IsHexDigit (Char.ofNat code) number := by
      decide +kernel
    have digit := all character.toNat (List.mem_range.mpr bound) value
    rw [Char.ofNat_toNat] at digit
    exact digit read
  · exact IsHexDigit.value_eq

theorem hexDigitValue_of_mem_asciiBlanks {character : Char} (blank : character ∈ asciiBlanks) :
    hexDigitValue? character = none := by
  have all : asciiBlanks.all (fun entry => (hexDigitValue? entry).isNone) = true := by decide
  simpa using List.all_eq_true.mp all character blank

def withoutBlanks (characters : List Char) : List Char :=
  characters.filter fun character => !isBlank character

@[simp] theorem withoutBlanks_append (front rest : List Char) :
    withoutBlanks (front ++ rest) = withoutBlanks front ++ withoutBlanks rest :=
  List.filter_append front rest

theorem withoutBlanks_eq_nil {blanks : List Char}
    (blank : ∀ character ∈ blanks, isBlank character = true) : withoutBlanks blanks = [] := by
  rw [withoutBlanks, List.filter_eq_nil_iff]
  intro character member
  simp [blank character member]

theorem withoutBlanks_eq_self {characters : List Char}
    (kept : ∀ character ∈ characters, isBlank character = false) :
    withoutBlanks characters = characters := by
  rw [withoutBlanks, List.filter_eq_self]
  intro character member
  simp [kept character member]

theorem withoutBlanks_of_ascii {blanks : List Char}
    (skipped : ∀ blank ∈ blanks, blank ∈ asciiBlanks) : withoutBlanks blanks = [] :=
  withoutBlanks_eq_nil fun blank member =>
    isBlank_of_isAsciiBlank (isAsciiBlank_iff_mem.mpr (skipped blank member))

/-! ## Trimming -/

section
variable {drop : Char → Bool}

theorem trim_eq (characters : List Char) :
    trim drop characters = (characters.dropWhile drop).rdropWhile drop := rfl

theorem exists_ends (drop : Char → Bool) (characters : List Char) :
    ∃ before after, characters = before ++ trim drop characters ++ after ∧
      (∀ character ∈ before, drop character = true) ∧
      ∀ character ∈ after, drop character = true := by
  refine ⟨characters.takeWhile drop, (characters.dropWhile drop).rtakeWhile drop, ?_,
    fun _ => List.mem_takeWhile_imp, fun _ => List.mem_rtakeWhile_imp⟩
  rw [trim_eq, List.append_assoc, List.rdropWhile_append_rtakeWhile,
    List.takeWhile_append_dropWhile]

theorem rdropWhile_append_of_dropped {front after : List Char}
    (dropped : ∀ character ∈ after, drop character = true) :
    (front ++ after).rdropWhile drop = front.rdropWhile drop := by
  simp only [List.rdropWhile, List.reverse_append]
  rw [List.dropWhile_append_of_pos (by simpa using dropped)]

theorem rdropWhile_append_of_kept {front rest : List Char}
    (kept : ∀ character ∈ front, drop character = false) :
    (front ++ rest).rdropWhile drop = front ++ rest.rdropWhile drop := by
  have whole : front.reverse.dropWhile drop = front.reverse := by
    rw [List.dropWhile_eq_self_iff]
    intro inside
    simp [kept _ (List.getElem_mem _)]
  simp only [List.rdropWhile, List.reverse_append, List.dropWhile_append, whole]
  split
  next empty =>
    rw [List.isEmpty_iff] at empty
    rw [empty, List.reverse_reverse]
    simp
  next => simp

theorem trim_between {before core after : List Char}
    (start : ∀ character ∈ before, drop character = true)
    (finish : ∀ character ∈ after, drop character = true) :
    trim drop (before ++ core ++ after) = trim drop core := by
  rw [trim_eq, trim_eq, List.append_assoc, List.dropWhile_append_of_pos start,
    List.dropWhile_append]
  split
  next empty =>
    rw [List.isEmpty_iff] at empty
    rw [empty, List.dropWhile_eq_nil_iff.mpr finish]
  next => rw [rdropWhile_append_of_dropped finish]

end

end Text

/-! ## Pairs of digits -/

namespace Octets
open Text (IsHexDigit asciiBlanks isBlank hexDigit isAsciiBlank_iff_mem
  hexDigitValue_eq_some_iff hexDigitValue_of_mem_asciiBlanks withoutBlanks)

/-- Pairs of digits with ASCII blanks after each of them, and the octets that they spell. -/
inductive Pairs : List Char → Octets → Prop where
  | nil : Pairs [] []
  | cons {first second : Char} {high low : Nat} {blanks rest : List Char} {octets : Octets} :
      IsHexDigit first high → IsHexDigit second low →
      (∀ blank ∈ blanks, blank ∈ asciiBlanks) → Pairs rest octets →
      Pairs (first :: second :: (blanks ++ rest)) (.ofNat (16 * high + low) :: octets)

theorem ofHexDigits_blank_cons {blank : Char} (skipped : blank ∈ asciiBlanks) (rest : List Char) :
    ofHexDigits? (blank :: rest) = ofHexDigits? rest := by
  cases rest <;> simp [ofHexDigits?, isAsciiBlank_iff_mem.mpr skipped]

theorem ofHexDigits_blanks_append {blanks : List Char}
    (skipped : ∀ blank ∈ blanks, blank ∈ asciiBlanks) (rest : List Char) :
    ofHexDigits? (blanks ++ rest) = ofHexDigits? rest := by
  induction blanks with
  | nil => rfl
  | cons blank blanks ih =>
    rw [List.cons_append, ofHexDigits_blank_cons (skipped blank List.mem_cons_self)]
    exact ih fun other member => skipped other (List.mem_cons_of_mem _ member)

theorem ofHexDigits_pair_append {first second : Char} {high low : Nat}
    (more : IsHexDigit first high) (less : IsHexDigit second low) (rest : List Char) :
    ofHexDigits? (first :: second :: rest) =
      (ofHexDigits? rest).map (.ofNat (16 * high + low) :: ·) := by
  simp [ofHexDigits?, more.isAsciiBlank_eq, more.value_eq, less.value_eq]

theorem Pairs.read {characters : List Char} {octets : Octets} (pairs : Pairs characters octets) :
    ofHexDigits? characters = some octets := by
  induction pairs with
  | nil => rfl
  | cons more less skipped _ ih =>
    rw [ofHexDigits_pair_append more less, ofHexDigits_blanks_append skipped, ih]
    rfl

/-- The scanner accepts ASCII blanks and then pairs of digits, and nothing else. -/
theorem ofHexDigits_eq_some_iff {characters : List Char} {octets : Octets} :
    ofHexDigits? characters = some octets ↔
      ∃ gap pairs, characters = gap ++ pairs ∧ (∀ blank ∈ gap, blank ∈ asciiBlanks) ∧
        Pairs pairs octets := by
  constructor
  · intro read
    fun_induction ofHexDigits? characters generalizing octets with
    | case1 =>
      cases read
      exact ⟨[], [], rfl, by simp, .nil⟩
    | case2 first rest blank ih =>
      obtain ⟨gap, pairs, rfl, skipped, spelled⟩ := ih read
      refine ⟨first :: gap, pairs, rfl, ?_, spelled⟩
      exact List.forall_mem_cons.mpr ⟨isAsciiBlank_iff_mem.mp blank, skipped⟩
    | case3 => cases read
    | case4 first _ second rest high low less more ih =>
      obtain ⟨others, found, rfl⟩ := Option.map_eq_some_iff.mp read
      obtain ⟨gap, pairs, rfl, skipped, spelled⟩ := ih found
      refine ⟨[], first :: second :: (gap ++ pairs), rfl, by simp, ?_⟩
      exact .cons (hexDigitValue_eq_some_iff.mp more) (hexDigitValue_eq_some_iff.mp less) skipped
        spelled
    | case5 => cases read
  · rintro ⟨gap, pairs, rfl, skipped, spelled⟩
    rw [ofHexDigits_blanks_append skipped]
    exact spelled.read

theorem ofHexDigits_append_blanks {blanks : List Char}
    (skipped : ∀ blank ∈ blanks, blank ∈ asciiBlanks) (characters : List Char) :
    ofHexDigits? (characters ++ blanks) = ofHexDigits? characters := by
  fun_induction ofHexDigits? characters with
  | case1 =>
    have read := ofHexDigits_blanks_append skipped []
    rwa [List.append_nil] at read
  | case2 first rest blank ih =>
    rw [List.cons_append, ofHexDigits_blank_cons (isAsciiBlank_iff_mem.mp blank), ih]
  | case3 first digit =>
    -- A digit without a second one is not helped by a blank.
    cases blanks with
    | nil => simp [ofHexDigits?, digit]
    | cons blank blanks =>
      have bad := hexDigitValue_of_mem_asciiBlanks (skipped blank List.mem_cons_self)
      simp [ofHexDigits?, digit, bad]
  | case4 first digit second rest high low less more ih =>
    rw [List.cons_append, List.cons_append,
      ofHexDigits_pair_append (hexDigitValue_eq_some_iff.mp more)
        (hexDigitValue_eq_some_iff.mp less), ih]
  | case5 first digit second rest bad =>
    simp only [List.cons_append, ofHexDigits?, if_neg digit]

theorem ofHexDigits_trimmed {characters : List Char}
    (plain : ∀ character ∈ characters, isBlank character = true → character ∈ asciiBlanks) :
    ofHexDigits? (characters.dropWhile isBlank) = ofHexDigits? characters ∧
      ofHexDigits? (characters.rdropWhile isBlank) = ofHexDigits? characters := by
  constructor
  · have skipped : ∀ blank ∈ characters.takeWhile isBlank, blank ∈ asciiBlanks := fun blank member =>
      plain blank (List.takeWhile_subset _ member) (List.mem_takeWhile_imp member)
    have read := ofHexDigits_blanks_append skipped (characters.dropWhile isBlank)
    rw [List.takeWhile_append_dropWhile] at read
    exact read.symm
  · have skipped : ∀ blank ∈ characters.rtakeWhile isBlank, blank ∈ asciiBlanks := fun blank member =>
      plain blank (List.IsSuffix.subset (List.rtakeWhile_suffix _ _) member)
        (List.mem_rtakeWhile_imp member)
    have read := ofHexDigits_append_blanks skipped (characters.rdropWhile isBlank)
    rw [List.rdropWhile_append_rtakeWhile] at read
    exact read.symm

theorem Pairs.plain {characters : List Char} {octets : Octets} (pairs : Pairs characters octets)
    {character : Char} (member : character ∈ characters) (blank : isBlank character = true) :
    character ∈ asciiBlanks := by
  induction pairs with
  | nil => cases member
  | cons more less skipped _ ih =>
    simp only [List.mem_cons, List.mem_append] at member
    rcases member with rfl | rfl | within | within
    · rw [more.isBlank_eq] at blank
      cases blank
    · rw [less.isBlank_eq] at blank
      cases blank
    · exact skipped character within
    · exact ih within

theorem withoutBlanks_pair {first second : Char} {high low : Nat} {blanks : List Char}
    (more : IsHexDigit first high) (less : IsHexDigit second low)
    (skipped : ∀ blank ∈ blanks, blank ∈ asciiBlanks) (rest : List Char) :
    withoutBlanks (first :: second :: (blanks ++ rest)) =
      first :: second :: withoutBlanks rest := by
  have digits : withoutBlanks [first, second] = [first, second] := by
    apply Text.withoutBlanks_eq_self
    simp [more.isBlank_eq, less.isBlank_eq]
  change withoutBlanks ([first, second] ++ (blanks ++ rest)) = _
  rw [Text.withoutBlanks_append, Text.withoutBlanks_append, digits,
    Text.withoutBlanks_of_ascii skipped]
  rfl

theorem Pairs.withoutBlanks {characters : List Char} {octets : Octets}
    (pairs : Pairs characters octets) : Pairs (withoutBlanks characters) octets := by
  induction pairs with
  | nil => exact .nil
  | cons more less skipped _ ih =>
    have none : ∀ blank ∈ ([] : List Char), blank ∈ asciiBlanks := by simp
    have pairs := Pairs.cons more less none ih
    rwa [withoutBlanks_pair more less skipped]

theorem hexDigits_pair {high low : Nat} (above : high < 16) (below : low < 16) (octets : Octets) :
    hexDigits (.ofNat (16 * high + low) :: octets) =
      hexDigit high :: hexDigit low :: hexDigits octets := by
  have octet : (UInt8.ofNat (16 * high + low)).toNat = 16 * high + low := by
    rw [UInt8.toNat_ofNat']
    omega
  have upper : (16 * high + low) / 16 = high := by omega
  have lower : (16 * high + low) % 16 = low := by omega
  rw [hexDigits_cons, octet, upper, lower]

theorem Pairs.toLower_eq {characters : List Char} {octets : Octets}
    (pairs : Pairs characters octets) :
    (Text.withoutBlanks characters).map Char.toLower = octets.hexDigits := by
  induction pairs with
  | nil => rfl
  | cons more less skipped _ ih =>
    rw [withoutBlanks_pair more less skipped, hexDigits_pair more.small less.small, List.map_cons,
      List.map_cons, ih, more.toLower_eq, less.toLower_eq]

theorem hexDigits_inj {first second : Octets} (same : first.hexDigits = second.hexDigits) :
    first = second := by
  apply Option.some.inj
  rw [← ofHexDigits_hexDigits first, ← ofHexDigits_hexDigits second, same]

end Octets

/-! ## Spellings -/

namespace Digest
open Text (asciiBlanks isBlank)

def radixMarks : List (List Char) := [[], ['0', 'x'], ['0', 'X']]

/-- A text that spells some octets, in its parts. -/
structure Spelling where
  before : List Char
  mark : List Char
  gap : List Char
  pairs : List Char
  after : List Char
  octets : Octets
  blankBefore : ∀ character ∈ before, isBlank character = true
  isMark : mark ∈ radixMarks
  blankGap : ∀ character ∈ gap, character ∈ asciiBlanks
  spelled : Octets.Pairs pairs octets
  blankAfter : ∀ character ∈ after, isBlank character = true

def Spelling.text (spelling : Spelling) : String :=
  .ofList (spelling.before ++ spelling.mark ++ spelling.gap ++ spelling.pairs ++ spelling.after)

def Spells (source : String) (octets : Octets) : Prop :=
  ∃ spelling : Spelling, spelling.text = source ∧ spelling.octets = octets

theorem exists_mark (characters : List Char) :
    ∃ mark ∈ radixMarks, characters = mark ++ dropRadix characters := by
  unfold dropRadix
  split
  · exact ⟨['0', 'x'], by decide, rfl⟩
  · exact ⟨['0', 'X'], by decide, rfl⟩
  · exact ⟨[], by decide, rfl⟩

theorem dropRadix_append {mark : List Char} (isMark : mark ∈ radixMarks) (marked : mark ≠ [])
    (rest : List Char) : dropRadix (mark ++ rest) = rest := by
  simp only [radixMarks, List.mem_cons, List.not_mem_nil, or_false] at isMark
  rcases isMark with rfl | rfl | rfl
  · exact absurd rfl marked
  · rfl
  · rfl

theorem dropRadix_of_read {characters : List Char} {octets : Octets}
    (read : Octets.ofHexDigits? characters = some octets) : dropRadix characters = characters := by
  unfold dropRadix
  split
  · simp [Octets.ofHexDigits?, Text.isAsciiBlank, Text.hexDigitValue?] at read
  · simp [Octets.ofHexDigits?, Text.isAsciiBlank, Text.hexDigitValue?] at read
  · rfl

theorem isBlank_of_mem_mark {mark : List Char} (isMark : mark ∈ radixMarks) :
    ∀ character ∈ mark, isBlank character = false := by
  have all : radixMarks.all (fun entry => entry.all fun character => !isBlank character) = true := by
    decide
  simpa using List.all_eq_true.mp all mark isMark

/-- Blanks at the ends are trimmed and the mark is dropped, which leaves what the digits say. -/
theorem ofHexDigits_dropRadix_trim {mark rest : List Char} {octets : Octets}
    (isMark : mark ∈ radixMarks)
    (plain : ∀ character ∈ rest, isBlank character = true → character ∈ asciiBlanks)
    (read : Octets.ofHexDigits? rest = some octets) :
    Octets.ofHexDigits? (dropRadix (Text.trim isBlank (mark ++ rest))) = some octets := by
  rw [Text.trim_eq]
  by_cases marked : mark = []
  · have startless : ∀ character ∈ rest.dropWhile isBlank,
        isBlank character = true → character ∈ asciiBlanks := fun character member =>
      plain character (List.dropWhile_subset _ member)
    have trimmed : Octets.ofHexDigits? ((rest.dropWhile isBlank).rdropWhile isBlank) = some octets := by
      rw [(Octets.ofHexDigits_trimmed startless).2, (Octets.ofHexDigits_trimmed plain).1, read]
    rw [marked, List.nil_append, dropRadix_of_read trimmed, trimmed]
  · have kept := isBlank_of_mem_mark isMark
    have started : (mark ++ rest).dropWhile isBlank = mark ++ rest := by
      rw [List.dropWhile_eq_self_iff]
      intro _
      rw [List.getElem_append_left (List.length_pos_iff.mpr marked), kept _ (List.getElem_mem _)]
      decide
    rw [started, Text.rdropWhile_append_of_kept kept, dropRadix_append isMark marked,
      (Octets.ofHexDigits_trimmed plain).2, read]

theorem readHex_eq_ok_iff_read {source : String} {octets : Octets} :
    readHex source = .ok octets ↔
      Octets.ofHexDigits? (dropRadix (Text.trim isBlank source.toList)) = some octets := by
  unfold readHex
  split
  next found => simp [found]
  next lost => simp [lost]

/-- A text reads as some octets exactly where it spells them. -/
theorem readHex_eq_ok_iff {source : String} {octets : Octets} :
    readHex source = .ok octets ↔ Spells source octets := by
  rw [readHex_eq_ok_iff_read]
  constructor
  · intro read
    obtain ⟨before, after, whole, blankBefore, blankAfter⟩ := Text.exists_ends isBlank source.toList
    obtain ⟨mark, isMark, marked⟩ := exists_mark (Text.trim isBlank source.toList)
    obtain ⟨gap, pairs, parted, blankGap, spelled⟩ := Octets.ofHexDigits_eq_some_iff.mp read
    refine ⟨⟨before, mark, gap, pairs, after, octets, blankBefore, isMark, blankGap, spelled,
      blankAfter⟩, ?_, rfl⟩
    rw [marked, parted] at whole
    rw [Spelling.text, ← String.toList_inj, String.toList_ofList, whole]
    simp only [List.append_assoc]
  · rintro ⟨spelling, rfl, rfl⟩
    -- Trimming may take blanks off the pairs too, but only such as are skipped between pairs.
    have plain : ∀ character ∈ spelling.gap ++ spelling.pairs,
        isBlank character = true → character ∈ asciiBlanks := by
      intro character member blank
      rcases List.mem_append.mp member with within | within
      · exact spelling.blankGap character within
      · exact spelling.spelled.plain within blank
    have read : Octets.ofHexDigits? (spelling.gap ++ spelling.pairs) = some spelling.octets := by
      rw [Octets.ofHexDigits_blanks_append spelling.blankGap, spelling.spelled.read]
    have parts : spelling.text.toList =
        spelling.before ++ (spelling.mark ++ (spelling.gap ++ spelling.pairs)) ++ spelling.after := by
      simp [Spelling.text]
    rw [parts, Text.trim_between spelling.blankBefore spelling.blankAfter]
    exact ofHexDigits_dropRadix_trim spelling.isMark plain read

def digits (source : String) : List Char :=
  (dropRadix (Text.withoutBlanks source.toList)).map Char.toLower

theorem digits_of_spells {source : String} {octets : Octets} (spells : Spells source octets) :
    digits source = octets.hexDigits := by
  obtain ⟨spelling, rfl, rfl⟩ := spells
  have kept : Text.withoutBlanks spelling.text.toList =
      spelling.mark ++ Text.withoutBlanks spelling.pairs := by
    simp [Spelling.text, Text.withoutBlanks_eq_nil spelling.blankBefore,
      Text.withoutBlanks_eq_self (isBlank_of_mem_mark spelling.isMark),
      Text.withoutBlanks_of_ascii spelling.blankGap, Text.withoutBlanks_eq_nil spelling.blankAfter]
  have unmarked : dropRadix (spelling.mark ++ Text.withoutBlanks spelling.pairs) =
      Text.withoutBlanks spelling.pairs := by
    by_cases marked : spelling.mark = []
    · rw [marked, List.nil_append, dropRadix_of_read spelling.spelled.withoutBlanks.read]
    · exact dropRadix_append spelling.isMark marked _
  rw [digits, kept, unmarked, spelling.spelled.toLower_eq]

/-! ## Outcomes -/

theorem ofOctets_eq_ok_iff {octets : Octets} {digest : Digest} :
    ofOctets octets = .ok digest ↔ digest.octets = octets := by
  constructor
  · intro made
    unfold ofOctets at made
    split at made
    next => rw [← Except.ok.inj made]
    next => cases made
  · rintro rfl
    exact ofOctets_octets digest

theorem error_of_readHex {source : String} {error : DigestError}
    (failed : readHex source = .error error) : error = .malformed source := by
  unfold readHex at failed
  split at failed
  next => cases failed
  next => exact (Except.error.inj failed).symm

theorem ofHex_eq_ok_iff {source : String} {digest : Digest} :
    ofHex source = .ok digest ↔ Spells source digest.octets := by
  rw [← readHex_eq_ok_iff, ofHex]
  cases readHex source with
  | error error =>
    constructor
    all_goals
      intro none
      cases none
  | ok octets =>
    change ofOctets octets = .ok digest ↔ Except.ok octets = .ok digest.octets
    rw [ofOctets_eq_ok_iff, Except.ok.injEq, eq_comm]

theorem ofHex_of_wrongWidth {source : String} {octets : Octets} (spells : Spells source octets)
    (width : octets.length ≠ digestWidth) : ofHex source = .error (.wrongWidth octets.length) := by
  rw [ofHex, readHex_eq_ok_iff.mpr spells]
  simp [Bind.bind, Except.bind, ofOctets, width]

theorem ofHex_of_malformed {source : String} (malformed : ∀ octets, ¬Spells source octets) :
    ofHex source = .error (.malformed source) := by
  have unread : readHex source = .error (.malformed source) := by
    cases found : readHex source with
    | ok octets => exact (malformed octets (readHex_eq_ok_iff.mp found)).elim
    | error error => rw [error_of_readHex found]
  rw [ofHex, unread]
  rfl

theorem ofHex_bareHex (digest : Digest) : ofHex digest.bareHex = .ok digest := by
  have read := Octets.ofHexDigits_hexDigits digest.octets
  rw [ofHex_eq_ok_iff, ← readHex_eq_ok_iff, readHex_eq_ok_iff_read, toList_bareHex,
    Text.trim_eq_self fun _ => Octets.isBlank_of_mem_hexDigits, dropRadix_of_read read, read]

end Digest

structure ReadByGrammar (source : String) (outcome : Except Failure Digest) : Prop where
  accepted (digest : Digest) : outcome = .ok digest ↔ Digest.Spells source digest.octets
  wrongWidth (octets : Octets) : Digest.Spells source octets → octets.length ≠ 32 →
    ∃ failure, outcome = .error failure ∧ failure.errorClass = .value ∧
      failure.message = s!"Digest must be 32 bytes, got {octets.length}"
  malformed : (∀ octets, ¬Digest.Spells source octets) →
    ∃ failure, outcome = .error failure ∧ failure.errorClass = .value ∧
      failure.message = s!"Invalid hex digest: {Text.quote source}"

namespace Value

theorem toDigest_text_eq_ok_iff {source : String} {digest : Digest} :
    toDigest (.text source) = .ok digest ↔ Digest.Spells source digest.octets := by
  rw [← Digest.ofHex_eq_ok_iff, toDigest]
  cases Digest.ofHex source <;> simp [Except.mapError]

theorem toDigest_readByGrammar (source : String) :
    ReadByGrammar source (toDigest (.text source)) where
  accepted _ := toDigest_text_eq_ok_iff
  wrongWidth octets spells width := by
    rw [toDigest, Digest.ofHex_of_wrongWidth spells width]
    exact ⟨_, rfl, rfl, rfl⟩
  malformed none := by
    rw [toDigest, Digest.ofHex_of_malformed none]
    exact ⟨_, rfl, rfl, rfl⟩

/-- A text is read in the same way on both routes, and as the grammar says; both spellings of a digest
are read as that digest; and texts are read as one digest exactly where their digits agree. -/
theorem texts_read_by_grammar :
    (∀ source, spelledDigest (.text source) = toDigest (.text source) ∧
      ReadByGrammar source (toDigest (.text source))) ∧
    (∀ digest : Digest, toDigest (.text digest.toHex) = .ok digest ∧
      toDigest (.text digest.bareHex) = .ok digest) ∧
    ∀ source other first second, toDigest (.text source) = .ok first →
      toDigest (.text other) = .ok second →
        (first = second ↔ Digest.digits source = Digest.digits other) := by
  refine ⟨fun source => ⟨rfl, toDigest_readByGrammar source⟩, fun digest => ?_, ?_⟩
  · simp [toDigest, Digest.ofHex_bareHex, Except.mapError]
  · intro source other first second read readOther
    rw [Digest.digits_of_spells (toDigest_text_eq_ok_iff.mp read),
      Digest.digits_of_spells (toDigest_text_eq_ok_iff.mp readOther)]
    constructor
    · rintro rfl
      rfl
    · intro same
      exact Digest.ext_octets (Octets.hexDigits_inj same)

def repeatedCapitals : String :=
  .ofList ('\u2003' :: '0' :: 'X' :: (List.replicate 32 ['\t', 'A', 'B']).flatten)

/-- Capitals between blanks spell what the canonical spelling does, two octets are too few, and a blank
within a pair is no spelling at all. -/
theorem texts_read_by_grammar_in_capitals :
    let digest : Digest := ⟨List.replicate 32 0xAB, rfl⟩
    toDigest (.text repeatedCapitals) = .ok digest ∧
      Digest.digits repeatedCapitals = Digest.digits digest.toHex ∧
      (∃ failure, toDigest (.text "AB 0F") = .error failure ∧ failure.errorClass = .value ∧
        failure.message = "Digest must be 32 bytes, got 2") ∧
      ∃ failure, toDigest (.text "A B") = .error failure ∧ failure.errorClass = .value ∧
        failure.message = "Invalid hex digest: 'A B'" := by
  intro digest
  obtain ⟨byGrammar, roundTrip, sameDigits⟩ := texts_read_by_grammar
  have read : toDigest (.text repeatedCapitals) = .ok digest := by decide +kernel
  have canonical := (roundTrip digest).1
  refine ⟨read, (sameDigits _ _ _ _ read canonical).mp rfl, ?_, ?_⟩
  · have short : Digest.readHex "AB 0F" = .ok [0xAB, 0x0F] := by decide +kernel
    exact (byGrammar "AB 0F").2.wrongWidth _ (Digest.readHex_eq_ok_iff.mp short) (by decide)
  · have unread : Digest.readHex "A B" = .error (.malformed "A B") := by decide +kernel
    have quoted : Text.quote "A B" = "'A B'" := by decide +kernel
    have outcome := (byGrammar "A B").2.malformed fun octets spells => by
      rw [Digest.readHex_eq_ok_iff.mpr spells] at unread
      cases unread
    rwa [quoted] at outcome

end Value

end Inclusion
