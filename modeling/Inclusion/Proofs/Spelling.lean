import Inclusion.Proofs.Routes
import Inclusion.Request

/-! Canonical spellings. A request is kept as texts and read again whenever its digests are asked for,
so what is spelled must read as what it was. -/

set_option autoImplicit false

namespace Inclusion

namespace Text

theorem trim_eq_self {drop : Char → Bool} {characters : List Char}
    (kept : ∀ character ∈ characters, drop character = false) :
    trim drop characters = characters := by
  have whole (list : List Char) (same : ∀ character ∈ list, drop character = false) :
      list.dropWhile drop = list := by
    cases list with
    | nil => rfl
    | cons first rest => simp [same first List.mem_cons_self]
  unfold trim
  rw [whole characters kept, whole characters.reverse (by simpa using kept), List.reverse_reverse]

end Text

/-! ## Digests -/

namespace Octets

theorem exists_of_mem_hexDigits {octets : Octets} {character : Char}
    (member : character ∈ octets.hexDigits) :
    ∃ value ∈ List.range 16, Text.hexDigit value = character := by
  obtain ⟨octet, _, within⟩ := List.mem_flatMap.mp member
  have bound := octet.toNat_lt
  have high : octet.toNat / 16 < 16 := by omega
  have low : octet.toNat % 16 < 16 := Nat.mod_lt _ (by omega)
  simp only [List.mem_cons, List.not_mem_nil, or_false] at within
  rcases within with rfl | rfl
  · exact ⟨_, List.mem_range.mpr high, rfl⟩
  · exact ⟨_, List.mem_range.mpr low, rfl⟩

theorem isBlank_of_mem_hexDigits {octets : Octets} {character : Char}
    (member : character ∈ octets.hexDigits) : Text.isBlank character = false := by
  have all : ∀ value ∈ List.range 16, Text.isBlank (Text.hexDigit value) = false := by decide
  obtain ⟨value, small, rfl⟩ := exists_of_mem_hexDigits member
  exact all value small

end Octets

namespace Digest

theorem toList_bareHex (digest : Digest) : digest.bareHex.toList = digest.octets.hexDigits := by
  simp [bareHex, Octets.toHex]

theorem toList_toHex (digest : Digest) :
    digest.toHex.toList = '0' :: 'x' :: digest.octets.hexDigits := by
  simp [toHex, toList_bareHex]

@[simp] theorem ofHex_toHex (digest : Digest) : ofHex digest.toHex = .ok digest := by
  have kept : ∀ character ∈ digest.toHex.toList, Text.isBlank character = false := by
    intro character member
    rw [toList_toHex, List.mem_cons, List.mem_cons] at member
    rcases member with rfl | rfl | member
    · decide
    · decide
    · exact Octets.isBlank_of_mem_hexDigits member
  have read : readHex digest.toHex = .ok digest.octets := by
    unfold readHex
    rw [Text.trim_eq_self kept, toList_toHex, dropRadix, Octets.ofHexDigits_hexDigits]
  rw [ofHex, read]
  exact ofOctets_octets digest

theorem mapM_ofHex_toHex (digests : List Digest) :
    (digests.map toHex).mapM ofHex = .ok digests := by
  rw [mapM_eq_ok_iff, List.forall₂_map_left_iff, List.forall₂_same]
  exact fun digest _ => digest.ofHex_toHex

end Digest

theorem denote_map_toHex (digests : List Digest) :
    Denote (digests.map fun digest => .text digest.toHex) digests := by
  unfold Denote
  rw [List.forall₂_map_left_iff, List.forall₂_same]
  intro digest _
  simp [Value.toDigest, Except.mapError]

/-! ## Requests -/

namespace Request

theorem texts_map_text (field : String) (position : Nat) (spellings : List String) :
    texts field position (spellings.map .text) = .ok spellings := by
  induction spellings generalizing position with
  | nil => rfl
  | cons spelling spellings ih => simp [texts, ih, Except.map]

theorem flagItems_map_boolean (field : String) (position : Nat) (flags : List Bool) :
    flagItems field position (flags.map .boolean) = .ok flags := by
  induction flags generalizing position with
  | nil => rfl
  | cons flag flags ih => simp [flagItems, readFlag, ih]

variable {entries : Entries} {field : String}

theorem readDigest_toHex {digest : Digest}
    (found : Json.lookup? entries field = some (.text digest.toHex)) :
    readDigest entries field = .ok digest := by
  simp [readDigest, found, Except.mapError]

theorem readDigests_toHex {digests : List Digest}
    (found : Json.lookup? entries field =
      some (.list (digests.map fun digest => .text digest.toHex))) :
    readDigests entries field = .ok digests := by
  have spelled : (digests.map fun digest => Json.text digest.toHex) =
      (digests.map Digest.toHex).map .text := by
    rw [List.map_map]
    rfl
  unfold readDigests
  rw [found]
  simp only [spelled, texts_map_text]
  change ((digests.map Digest.toHex).mapM Digest.ofHex).mapError _ = _
  rw [Digest.mapM_ofHex_toHex]
  rfl

theorem readFlags_boolean {flags : List Bool}
    (found : Json.lookup? entries field = some (.list (flags.map .boolean))) :
    readFlags entries field = .ok flags := by
  simp [readFlags, found, flagItems_map_boolean]

end Request

theorem SingleRequest.ofEntries_toEntries (request : SingleRequest) :
    ofEntries request.toEntries = .ok request := by
  have root : Request.readDigest request.toEntries "root" = .ok request.root :=
    Request.readDigest_toHex rfl
  have leaf : Request.readDigest request.toEntries "leaf" = .ok request.leaf :=
    Request.readDigest_toHex rfl
  have proof : Request.readDigests request.toEntries "proof" = .ok request.proof :=
    Request.readDigests_toHex rfl
  simp only [ofEntries, root, leaf, proof]

theorem MultiRequest.ofEntries_toEntries (request : MultiRequest) :
    ofEntries request.toEntries = .ok request := by
  have root : Request.readDigest request.toEntries "root" = .ok request.root :=
    Request.readDigest_toHex rfl
  have leaves : Request.readDigests request.toEntries "leaves" = .ok request.leaves :=
    Request.readDigests_toHex rfl
  have proof : Request.readDigests request.toEntries "proof" = .ok request.multiProof.proof :=
    Request.readDigests_toHex rfl
  have flags : Request.readFlags request.toEntries "flags" = .ok request.multiProof.flags :=
    Request.readFlags_boolean rfl
  simp only [ofEntries, root, leaves, proof, flags]

theorem MultiProof.ofValues_toHex (multiProof : MultiProof) :
    ofValues (multiProof.proof.map fun digest => .text digest.toHex) multiProof.flagValues =
      .ok multiProof :=
  ofValues_eq_ok_iff.mpr ⟨denote_map_toHex multiProof.proof, rfl⟩

end Inclusion
