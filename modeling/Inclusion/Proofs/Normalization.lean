import Inclusion.Proofs.Grammar

/-! Requests in texts. A document is accepted exactly where its texts denote digests, and is then kept
in canonical spellings, from which the same digests are read and which are accepted as the same request.
Where a document has the right types, each field with a text that is no digest gives one complaint, and
that is about the field as a whole. -/

set_option autoImplicit false

namespace Inclusion

/-! ## Texts and digests -/

def Canonical (text : String) : Prop :=
  ∃ digits : List Char, text.toList = '0' :: 'x' :: digits ∧ digits.length = 64 ∧
    ∀ digit ∈ digits, digit ∈ Text.smallDigits

/-- The canonical spelling of what an accepted text denotes. -/
structure Normalizes (original text : String) : Prop where
  canonical : Canonical text
  same : (Digest.ofHex original).map Digest.toHex = .ok text

namespace Octets

theorem length_hexDigits (octets : Octets) : octets.hexDigits.length = 2 * octets.length := by
  induction octets with
  | nil => rfl
  | cons octet rest ih =>
    simp only [hexDigits_cons, List.length_cons, ih]
    omega

theorem mem_smallDigits_of_mem_hexDigits {octets : Octets} {character : Char}
    (member : character ∈ octets.hexDigits) : character ∈ Text.smallDigits := by
  have all : ∀ value ∈ List.range 16, Text.hexDigit value ∈ Text.smallDigits := by decide
  obtain ⟨value, small, rfl⟩ := exists_of_mem_hexDigits member
  exact all value small

end Octets

namespace Digest

theorem canonical_toHex (digest : Digest) : Canonical digest.toHex := by
  refine ⟨digest.octets.hexDigits, digest.toList_toHex, ?_, fun _ => ?_⟩
  · rw [Octets.length_hexDigits, digest.width]
    rfl
  · exact Octets.mem_smallDigits_of_mem_hexDigits

theorem normalizes_toHex {original : String} {digest : Digest} (read : ofHex original = .ok digest) :
    Normalizes original digest.toHex where
  canonical := digest.canonical_toHex
  same := by
    rw [read]
    rfl

def fault? (text : String) : Option DigestError :=
  match ofHex text with
  | .ok _ => none
  | .error error => some error

theorem fault_eq_none_iff {text : String} : fault? text = none ↔ ∃ digest, ofHex text = .ok digest := by
  unfold fault?
  cases ofHex text <;> simp

end Digest

def Spell (texts : List String) (digests : List Digest) : Prop :=
  List.Forall₂ (fun text digest => Digest.ofHex text = .ok digest) texts digests

namespace Spell
variable {texts : List String} {digests : List Digest}

theorem normalizes (spell : Spell texts digests) :
    List.Forall₂ Normalizes texts (digests.map Digest.toHex) := by
  induction spell with
  | nil => exact .nil
  | cons head _ ih => exact .cons (Digest.normalizes_toHex head) ih

end Spell

theorem spell_map_toHex (digests : List Digest) : Spell (digests.map Digest.toHex) digests :=
  mapM_eq_ok_iff.mp (Digest.mapM_ofHex_toHex digests)

theorem exists_spell {texts : List String} (read : ∀ text ∈ texts, ∃ digest, Digest.ofHex text = .ok digest) :
    ∃ digests, Spell texts digests := by
  induction texts with
  | nil => exact ⟨[], .nil⟩
  | cons text texts ih =>
    obtain ⟨digest, head⟩ := read text List.mem_cons_self
    obtain ⟨digests, tail⟩ := ih fun other member => read other (List.mem_cons_of_mem _ member)
    exact ⟨digest :: digests, .cons head tail⟩

theorem findSome_fault (texts : List String) :
    texts.findSome? Digest.fault? =
      match texts.mapM Digest.ofHex with
      | .ok _ => none
      | .error error => some error := by
  induction texts with
  | nil => rfl
  | cons text texts ih =>
    rw [List.findSome?_cons, List.mapM_cons, ih, Digest.fault?]
    cases Digest.ofHex text with
    | error error => rfl
    | ok digest => cases texts.mapM Digest.ofHex <;> rfl

/-! ## Fields of a document -/

namespace Request

def TextAt (entries : Entries) (field : String) (text : String) : Prop :=
  Json.lookup? entries field = some (.text text)

/-- A field that may be left out, and else has to be a list of texts. -/
inductive TextsAt (entries : Entries) (field : String) : List String → Prop where
  | absent : Json.lookup? entries field = none → TextsAt entries field []
  | given {texts : List String} :
      Json.lookup? entries field = some (.list (texts.map .text)) → TextsAt entries field texts

inductive FlagsAt (entries : Entries) (field : String) : List Bool → Prop where
  | absent : Json.lookup? entries field = none → FlagsAt entries field []
  | given {items : List Json} {flags : List Bool} :
      Json.lookup? entries field = some (.list items) →
        List.Forall₂ (fun item flag => readFlag item = .ok flag) items flags →
          FlagsAt entries field flags

theorem mapError_eq_ok_iff {α ε ε' : Type} {outcome : Except ε α} {tell : ε → ε'} {value : α} :
    outcome.mapError tell = .ok value ↔ outcome = .ok value := by
  cases outcome <;> simp [Except.mapError]

variable {entries : Entries} {field : String}

theorem textsAt_map_toHex {digests : List Digest}
    (found : Json.lookup? entries field =
      some (.list (digests.map fun digest => .text digest.toHex))) :
    TextsAt entries field (digests.map Digest.toHex) := by
  apply TextsAt.given
  rw [found, List.map_map]
  rfl

theorem readDigest_of_text {text : String} (found : TextAt entries field text) :
    readDigest entries field =
      (Digest.ofHex text).mapError fun error => [.about field (.digest error)] := by
  unfold readDigest
  rw [found]

theorem readDigests_of_texts {texts : List String} (found : TextsAt entries field texts) :
    readDigests entries field =
      (texts.mapM Digest.ofHex).mapError fun error => [.about field (.digest error)] := by
  unfold readDigests
  cases found with
  | absent none =>
    rw [none]
    rfl
  | given found =>
    rw [found]
    simp only [texts_map_text]
    rfl

theorem eq_map_of_texts {items : List Json} {spellings : List String} {position : Nat}
    (read : texts field position items = .ok spellings) : items = spellings.map .text := by
  induction items generalizing spellings position with
  | nil =>
    cases read
    rfl
  | cons item items ih =>
    cases item with
    | text spelling =>
      simp only [texts] at read
      cases rest : texts field (position + 1) items with
      | error complaints =>
        rw [rest] at read
        cases read
      | ok others =>
        rw [rest] at read
        cases read
        rw [ih rest, List.map_cons]
    | _ =>
      -- An item that is no text is complained about, whether or not the rest has complaints.
      simp only [texts] at read
      split at read
      all_goals cases read

theorem readDigest_eq_ok_iff {digest : Digest} :
    readDigest entries field = .ok digest ↔
      ∃ text, TextAt entries field text ∧ Digest.ofHex text = .ok digest := by
  constructor
  · intro read
    unfold readDigest at read
    split at read
    next => cases read
    next text found =>
      exact ⟨text, found, mapError_eq_ok_iff.mp read⟩
    next => cases read
  · rintro ⟨text, found, read⟩
    rw [readDigest_of_text found, mapError_eq_ok_iff]
    exact read

theorem readDigests_eq_ok_iff {digests : List Digest} :
    readDigests entries field = .ok digests ↔
      ∃ texts, TextsAt entries field texts ∧ Spell texts digests := by
  constructor
  · intro read
    unfold readDigests at read
    split at read
    next none =>
      cases read
      exact ⟨[], .absent none, .nil⟩
    next items found =>
      cases listed : texts field 0 items with
      | error complaints =>
        rw [listed] at read
        cases read
      | ok spellings =>
        rw [listed] at read
        rw [eq_map_of_texts listed] at found
        exact ⟨spellings, .given found, mapM_eq_ok_iff.mp (mapError_eq_ok_iff.mp read)⟩
    next => cases read
  · rintro ⟨texts, found, spell⟩
    rw [readDigests_of_texts found, mapError_eq_ok_iff]
    exact mapM_eq_ok_iff.mpr spell

theorem flagItems_eq_ok_iff {position : Nat} {items : List Json} {flags : List Bool} :
    flagItems field position items = .ok flags ↔
      List.Forall₂ (fun item flag => readFlag item = .ok flag) items flags := by
  induction items generalizing position flags with
  | nil =>
    rw [flagItems, List.forall₂_nil_left_iff, Except.ok.injEq, eq_comm]
  | cons item items ih =>
    rw [List.forall₂_cons_left_iff]
    simp only [flagItems, ← @ih (position + 1)]
    -- Only where both the item and the rest are read are there flags on either side.
    cases readFlag item with
    | error fault => cases flagItems field (position + 1) items <;> simp
    | ok flag =>
      cases flagItems field (position + 1) items with
      | error complaints => simp
      | ok others => simp [eq_comm]

theorem readFlags_eq_ok_iff {flags : List Bool} :
    readFlags entries field = .ok flags ↔ FlagsAt entries field flags := by
  constructor
  · intro read
    unfold readFlags at read
    split at read
    next none =>
      cases read
      exact .absent none
    next items found => exact .given found (flagItems_eq_ok_iff.mp read)
    next => cases read
  · intro found
    unfold readFlags
    cases found with
    | absent none => rw [none]
    | given found read =>
      rw [found]
      exact flagItems_eq_ok_iff.mpr read

/-! ## Complaints about fields -/

def complaint? (field : String × List String) : Option Complaint :=
  (field.2.findSome? Digest.fault?).map fun error => .about field.1 (.digest error)

theorem complaint_eq_none_iff {texts : List String} :
    complaint? (field, texts) = none ↔ ∀ text ∈ texts, ∃ digest, Digest.ofHex text = .ok digest := by
  simp only [complaint?, Option.map_eq_none_iff, List.findSome?_eq_none_iff, Digest.fault_eq_none_iff]

theorem complaints_readDigest {text : String} (found : TextAt entries field text) :
    complaints (readDigest entries field) = (complaint? (field, [text])).toList := by
  rw [readDigest_of_text found, complaint?, List.findSome?_singleton, Digest.fault?]
  cases Digest.ofHex text <;> rfl

theorem complaints_readDigests {texts : List String} (found : TextsAt entries field texts) :
    complaints (readDigests entries field) = (complaint? (field, texts)).toList := by
  rw [readDigests_of_texts found, complaint?, findSome_fault]
  cases texts.mapM Digest.ofHex <;> rfl

theorem complaints_readFlags {flags : List Bool} (found : FlagsAt entries field flags) :
    complaints (readFlags entries field) = [] := by
  rw [readFlags_eq_ok_iff.mpr found]
  rfl

theorem ofOctets_of_object {α : Type} {read : Entries → Except (List Complaint) α} {octets : Octets}
    (object : Json.readOctets? bounds octets = some (.object entries)) :
    ofOctets read octets = read entries := by
  unfold ofOctets
  rw [object]

theorem exists_object_of_ofOctets {α : Type} {read : Entries → Except (List Complaint) α}
    {octets : Octets} {request : α} (accepted : ofOctets read octets = .ok request) :
    ∃ entries, Json.readOctets? bounds octets = some (.object entries) ∧
      read entries = .ok request := by
  unfold ofOctets at accepted
  split at accepted
  next => cases accepted
  next entries object => exact ⟨entries, object, accepted⟩
  next => cases accepted

theorem complaint_isSome (field : String × List String) :
    (complaint? field).isSome = field.2.any fun text => (Digest.fault? text).isSome := by
  rw [complaint?, Option.isSome_map, List.isSome_findSome?]

theorem location_of_complaint {field : String × List String} {complaint : Complaint}
    (told : complaint? field = some complaint) :
    complaint.location = [.field field.1] ∧ complaint.fault.word = "value_error" := by
  obtain ⟨error, _, rfl⟩ := Option.map_eq_some_iff.mp told
  exact ⟨rfl, rfl⟩

theorem map_location_complaints (fields : List (String × List String)) :
    (fields.filterMap complaint?).map Complaint.location =
      (fields.filter fun field => field.2.any fun text => (Digest.fault? text).isSome).map
        fun field => [.field field.1] := by
  induction fields with
  | nil => rfl
  | cons field fields ih =>
    rw [List.filter_cons, ← complaint_isSome]
    cases told : complaint? field with
    | none => rw [List.filterMap_cons_none told, ih]; rfl
    | some complaint =>
      rw [List.filterMap_cons_some told, List.map_cons, ih, (location_of_complaint told).1]
      rfl

/-- An outcome that the texts in some fields decide: each field with a text that is no digest is
complained about once, as a whole and for the first such text. -/
structure DecidedByTexts {α : Type} (fields : List (String × List String))
    (outcome : Except (List Complaint) α) : Prop where
  accepted : (∃ request, outcome = .ok request) ↔
    ∀ field ∈ fields, ∀ text ∈ field.2, ∃ digest, Digest.ofHex text = .ok digest
  rejected (complaints : List Complaint) : outcome = .error complaints →
    complaints = fields.filterMap complaint?
  located (complaints : List Complaint) : outcome = .error complaints →
    complaints.map Complaint.location =
      (fields.filter fun field => field.2.any fun text => (Digest.fault? text).isSome).map
        fun field => [.field field.1]
  worded (complaints : List Complaint) : outcome = .error complaints →
    ∀ complaint ∈ complaints, complaint.fault.word = "value_error"

theorem decidedByTexts_of_complaints {α : Type} {fields : List (String × List String)}
    {outcome : Except (List Complaint) α}
    (told : complaints outcome = fields.filterMap complaint?)
    (read : (∀ field ∈ fields, ∀ text ∈ field.2, ∃ digest, Digest.ofHex text = .ok digest) →
      ∃ request, outcome = .ok request) : DecidedByTexts fields outcome := by
  have rejected (refused : List Complaint) (failed : outcome = .error refused) :
      refused = fields.filterMap complaint? := by
    rw [← told, failed]
    rfl
  refine ⟨⟨?_, read⟩, rejected, fun refused failed => ?_, fun refused failed complaint among => ?_⟩
  · rintro ⟨request, rfl⟩ field member
    exact complaint_eq_none_iff.mp (List.filterMap_eq_nil_iff.mp told.symm field member)
  · rw [rejected refused failed, map_location_complaints]
  · rw [rejected refused failed] at among
    obtain ⟨field, _, made⟩ := List.mem_filterMap.mp among
    exact (location_of_complaint made).2

end Request

/-! ## Requests for one leaf -/

structure SingleTexts where
  root : String
  leaf : String
  proof : List String

namespace SingleTexts
open Request (TextAt TextsAt)

structure WrittenIn (texts : SingleTexts) (entries : Request.Entries) : Prop where
  root : TextAt entries "root" texts.root
  leaf : TextAt entries "leaf" texts.leaf
  proof : TextsAt entries "proof" texts.proof

structure Denotes (texts : SingleTexts) (request : SingleRequest) : Prop where
  root : Digest.ofHex texts.root = .ok request.root
  leaf : Digest.ofHex texts.leaf = .ok request.leaf
  proof : Spell texts.proof request.proof

/-- Every text is kept as the canonical spelling of what it denotes, in its place. -/
structure NormalizedTo (originals texts : SingleTexts) : Prop where
  root : Normalizes originals.root texts.root
  leaf : Normalizes originals.leaf texts.leaf
  proof : List.Forall₂ Normalizes originals.proof texts.proof

def fields (texts : SingleTexts) : List (String × List String) :=
  [("root", [texts.root]), ("leaf", [texts.leaf]), ("proof", texts.proof)]

end SingleTexts

namespace SingleRequest
variable {entries : Request.Entries} {originals : SingleTexts}

def texts (request : SingleRequest) : SingleTexts :=
  ⟨request.root.toHex, request.leaf.toHex, request.proof.map Digest.toHex⟩

/-- How a request is kept that some texts of a document ask for. -/
structure KeptFrom (request : SingleRequest) (entries : Request.Entries) (originals : SingleTexts) :
    Prop where
  written : originals.WrittenIn entries
  denoted : originals.Denotes request
  normalized : originals.NormalizedTo request.texts
  kept : request.texts.WrittenIn request.toEntries
  readAgain : request.texts.Denotes request
  acceptedAgain : ofEntries request.toEntries = .ok request

theorem ofEntries_eq_ok_iff {request : SingleRequest} :
    ofEntries entries = .ok request ↔
      ∃ originals : SingleTexts, originals.WrittenIn entries ∧ originals.Denotes request := by
  constructor
  · intro accepted
    simp only [ofEntries] at accepted
    split at accepted
    next root leaf proof readRoot readLeaf readProof =>
      cases accepted
      obtain ⟨rootText, foundRoot, spelledRoot⟩ := Request.readDigest_eq_ok_iff.mp readRoot
      obtain ⟨leafText, foundLeaf, spelledLeaf⟩ := Request.readDigest_eq_ok_iff.mp readLeaf
      obtain ⟨proofTexts, foundProof, spelledProof⟩ := Request.readDigests_eq_ok_iff.mp readProof
      exact ⟨⟨rootText, leafText, proofTexts⟩, ⟨foundRoot, foundLeaf, foundProof⟩,
        spelledRoot, spelledLeaf, spelledProof⟩
    next => cases accepted
  · rintro ⟨originals, written, denotes⟩
    have root := Request.readDigest_eq_ok_iff.mpr ⟨_, written.root, denotes.root⟩
    have leaf := Request.readDigest_eq_ok_iff.mpr ⟨_, written.leaf, denotes.leaf⟩
    have proof := Request.readDigests_eq_ok_iff.mpr ⟨_, written.proof, denotes.proof⟩
    simp only [ofEntries, root, leaf, proof]

theorem complaints_ofEntries :
    Request.complaints (ofEntries entries) =
      Request.complaints (Request.readDigest entries "root") ++
        Request.complaints (Request.readDigest entries "leaf") ++
          Request.complaints (Request.readDigests entries "proof") := by
  simp only [ofEntries]
  split
  next readRoot readLeaf readProof =>
    rw [readRoot, readLeaf, readProof]
    rfl
  next => rfl

theorem decidedByTexts (written : originals.WrittenIn entries) :
    Request.DecidedByTexts originals.fields (ofEntries entries) := by
  apply Request.decidedByTexts_of_complaints
  · rw [complaints_ofEntries, Request.complaints_readDigest written.root,
      Request.complaints_readDigest written.leaf, Request.complaints_readDigests written.proof]
    simp [SingleTexts.fields, List.filterMap_eq_flatMap_toList]
  · intro read
    simp only [SingleTexts.fields, List.forall_mem_cons, List.not_mem_nil, false_implies,
      implies_true, and_true] at read
    obtain ⟨⟨root, spelledRoot⟩, ⟨leaf, spelledLeaf⟩, spelled⟩ := read
    obtain ⟨proof, spelledProof⟩ := exists_spell spelled
    exact ⟨⟨root, leaf, proof⟩, ofEntries_eq_ok_iff.mpr
      ⟨originals, written, spelledRoot, spelledLeaf, spelledProof⟩⟩

theorem exists_keptFrom {request : SingleRequest} (accepted : ofEntries entries = .ok request) :
    ∃ originals, request.KeptFrom entries originals := by
  obtain ⟨originals, written, denoted⟩ := ofEntries_eq_ok_iff.mp accepted
  refine ⟨originals, written, denoted, ?_, ?_, ?_, request.ofEntries_toEntries⟩
  · exact ⟨Digest.normalizes_toHex denoted.root, Digest.normalizes_toHex denoted.leaf,
      denoted.proof.normalizes⟩
  · exact ⟨rfl, rfl, Request.textsAt_map_toHex rfl⟩
  · exact ⟨request.root.ofHex_toHex, request.leaf.ofHex_toHex, spell_map_toHex request.proof⟩

end SingleRequest

/-! ## Requests for several leaves -/

structure MultiTexts where
  root : String
  leaves : List String
  proof : List String
  flags : List Bool

namespace MultiTexts
open Request (TextAt TextsAt FlagsAt)

structure WrittenIn (texts : MultiTexts) (entries : Request.Entries) : Prop where
  root : TextAt entries "root" texts.root
  leaves : TextsAt entries "leaves" texts.leaves
  proof : TextsAt entries "proof" texts.proof
  flags : FlagsAt entries "flags" texts.flags

structure Denotes (texts : MultiTexts) (request : MultiRequest) : Prop where
  root : Digest.ofHex texts.root = .ok request.root
  leaves : Spell texts.leaves request.leaves
  proof : Spell texts.proof request.multiProof.proof
  flags : texts.flags = request.multiProof.flags

structure NormalizedTo (originals texts : MultiTexts) : Prop where
  root : Normalizes originals.root texts.root
  leaves : List.Forall₂ Normalizes originals.leaves texts.leaves
  proof : List.Forall₂ Normalizes originals.proof texts.proof
  flags : originals.flags = texts.flags

def fields (texts : MultiTexts) : List (String × List String) :=
  [("root", [texts.root]), ("leaves", texts.leaves), ("proof", texts.proof)]

def multiProof (texts : MultiTexts) : Except Failure MultiProof :=
  MultiProof.ofValues (texts.proof.map .text) (texts.flags.map .boolean)

end MultiTexts

namespace MultiRequest
variable {entries : Request.Entries} {originals : MultiTexts}

def texts (request : MultiRequest) : MultiTexts :=
  ⟨request.root.toHex, request.leaves.map Digest.toHex, request.multiProof.proof.map Digest.toHex,
    request.multiProof.flags⟩

structure KeptFrom (request : MultiRequest) (entries : Request.Entries) (originals : MultiTexts) :
    Prop where
  written : originals.WrittenIn entries
  denoted : originals.Denotes request
  normalized : originals.NormalizedTo request.texts
  kept : request.texts.WrittenIn request.toEntries
  readAgain : request.texts.Denotes request
  madeAgain : request.texts.multiProof = .ok request.multiProof
  acceptedAgain : ofEntries request.toEntries = .ok request

theorem ofEntries_eq_ok_iff {request : MultiRequest} :
    ofEntries entries = .ok request ↔
      ∃ originals : MultiTexts, originals.WrittenIn entries ∧ originals.Denotes request := by
  constructor
  · intro accepted
    simp only [ofEntries] at accepted
    split at accepted
    next root leaves proof flags readRoot readLeaves readProof readFlags =>
      cases accepted
      obtain ⟨rootText, foundRoot, spelledRoot⟩ := Request.readDigest_eq_ok_iff.mp readRoot
      obtain ⟨leafTexts, foundLeaves, spelledLeaves⟩ := Request.readDigests_eq_ok_iff.mp readLeaves
      obtain ⟨proofTexts, foundProof, spelledProof⟩ := Request.readDigests_eq_ok_iff.mp readProof
      have foundFlags := Request.readFlags_eq_ok_iff.mp readFlags
      exact ⟨⟨rootText, leafTexts, proofTexts, flags⟩,
        ⟨foundRoot, foundLeaves, foundProof, foundFlags⟩,
        spelledRoot, spelledLeaves, spelledProof, rfl⟩
    next => cases accepted
  · rintro ⟨originals, written, denotes⟩
    have root := Request.readDigest_eq_ok_iff.mpr ⟨_, written.root, denotes.root⟩
    have leaves := Request.readDigests_eq_ok_iff.mpr ⟨_, written.leaves, denotes.leaves⟩
    have proof := Request.readDigests_eq_ok_iff.mpr ⟨_, written.proof, denotes.proof⟩
    have flags := Request.readFlags_eq_ok_iff.mpr (denotes.flags ▸ written.flags)
    simp only [ofEntries, root, leaves, proof, flags]

theorem complaints_ofEntries :
    Request.complaints (ofEntries entries) =
      Request.complaints (Request.readDigest entries "root") ++
        Request.complaints (Request.readDigests entries "leaves") ++
          Request.complaints (Request.readDigests entries "proof") ++
            Request.complaints (Request.readFlags entries "flags") := by
  simp only [ofEntries]
  split
  next readRoot readLeaves readProof readFlags =>
    rw [readRoot, readLeaves, readProof, readFlags]
    rfl
  next => rfl

theorem decidedByTexts (written : originals.WrittenIn entries) :
    Request.DecidedByTexts originals.fields (ofEntries entries) := by
  apply Request.decidedByTexts_of_complaints
  · rw [complaints_ofEntries, Request.complaints_readDigest written.root,
      Request.complaints_readDigests written.leaves, Request.complaints_readDigests written.proof,
      Request.complaints_readFlags written.flags]
    simp [MultiTexts.fields, List.filterMap_eq_flatMap_toList]
  · intro read
    simp only [MultiTexts.fields, List.forall_mem_cons, List.not_mem_nil, false_implies,
      implies_true, and_true] at read
    obtain ⟨⟨root, spelledRoot⟩, spelledLeaves, spelledProof⟩ := read
    obtain ⟨leaves, spelledLeaves⟩ := exists_spell spelledLeaves
    obtain ⟨proof, spelledProof⟩ := exists_spell spelledProof
    exact ⟨⟨root, leaves, ⟨proof, originals.flags⟩⟩, ofEntries_eq_ok_iff.mpr
      ⟨originals, written, spelledRoot, spelledLeaves, spelledProof, rfl⟩⟩

theorem exists_keptFrom {request : MultiRequest} (accepted : ofEntries entries = .ok request) :
    ∃ originals, request.KeptFrom entries originals := by
  obtain ⟨originals, written, denoted⟩ := ofEntries_eq_ok_iff.mp accepted
  refine ⟨originals, written, denoted, ?_, ?_, ?_, ?_, request.ofEntries_toEntries⟩
  · exact ⟨Digest.normalizes_toHex denoted.root, denoted.leaves.normalizes,
      denoted.proof.normalizes, denoted.flags⟩
  · exact ⟨rfl, Request.textsAt_map_toHex rfl, Request.textsAt_map_toHex rfl,
      Request.readFlags_eq_ok_iff.mp (Request.readFlags_boolean rfl)⟩
  · exact ⟨request.root.ofHex_toHex, spell_map_toHex request.leaves,
      spell_map_toHex request.multiProof.proof, rfl⟩
  · rw [MultiTexts.multiProof, texts, List.map_map]
    exact request.multiProof.ofValues_toHex

end MultiRequest

/-! ## Documents -/

/-- Documents are accepted as the requests that their texts denote, and these are kept in canonical
texts: the same digests in the same places and the same flags, which are read from them again and
accepted again. A document of the right types is rejected exactly where some text in a field of digests
is no digest, with one complaint about each such field as a whole. -/
theorem requests_kept_in_canonical_texts :
    (∀ octets request, SingleRequest.ofOctets octets = .ok request →
      ∃ entries originals, Json.readOctets? Request.bounds octets = some (.object entries) ∧
        request.KeptFrom entries originals) ∧
    (∀ octets request, MultiRequest.ofOctets octets = .ok request →
      ∃ entries originals, Json.readOctets? Request.bounds octets = some (.object entries) ∧
        request.KeptFrom entries originals) ∧
    (∀ octets entries, Json.readOctets? Request.bounds octets = some (.object entries) →
      ∀ texts : SingleTexts, texts.WrittenIn entries →
        Request.DecidedByTexts texts.fields (SingleRequest.ofOctets octets)) ∧
    ∀ octets entries, Json.readOctets? Request.bounds octets = some (.object entries) →
      ∀ texts : MultiTexts, texts.WrittenIn entries →
        Request.DecidedByTexts texts.fields (MultiRequest.ofOctets octets) := by
  refine ⟨fun octets request accepted => ?_, fun octets request accepted => ?_,
    fun octets entries object texts written => ?_, fun octets entries object texts written => ?_⟩
  · obtain ⟨entries, object, read⟩ := Request.exists_object_of_ofOctets accepted
    obtain ⟨originals, kept⟩ := SingleRequest.exists_keptFrom read
    exact ⟨entries, originals, object, kept⟩
  · obtain ⟨entries, object, read⟩ := Request.exists_object_of_ofOctets accepted
    obtain ⟨originals, kept⟩ := MultiRequest.exists_keptFrom read
    exact ⟨entries, originals, object, kept⟩
  · rw [SingleRequest.ofOctets, Request.ofOctets_of_object object]
    exact SingleRequest.decidedByTexts written
  · rw [MultiRequest.ofOctets, Request.ofOctets_of_object object]
    exact MultiRequest.decidedByTexts written

/-- Spellings of zero with and without a radix mark are kept as its canonical one, in lists too. Of two
texts in a list that are no digests only the first is complained about, as a fault of the list. -/
theorem requests_kept_in_canonical_texts_of_zero :
    let zero : String := Digest.zero.bareHex
    let single : Octets := .ofText ("\x7b\"leaf\":\" 0X" ++ zero ++ "\",\"root\":\"" ++ zero ++ "\"\x7d")
    let multi : Octets := .ofText ("\x7b\"root\":\"" ++ zero ++ "\",\"leaves\":[\"" ++ zero ++
      "\",\"\\n0x" ++ zero ++ "\"],\"proof\":[\"0X" ++ zero ++ "\"],\"flags\":[true,\"no\"]\x7d")
    let refused : Octets := .ofText "\x7b\"root\":\"\",\"leaf\":\"\",\"proof\":[\"0x\",\"z\"]\x7d"
    (∃ entries originals, Json.readOctets? Request.bounds single = some (.object entries) ∧
      (⟨.zero, .zero, []⟩ : SingleRequest).KeptFrom entries originals) ∧
    (∃ entries originals, Json.readOctets? Request.bounds multi = some (.object entries) ∧
      (⟨.zero, [.zero, .zero], ⟨[.zero], [true, false]⟩⟩ : MultiRequest).KeptFrom entries originals) ∧
    (∀ complaints, SingleRequest.ofOctets refused = .error complaints →
      complaints.map Complaint.location = [[.field "root"], [.field "leaf"], [.field "proof"]]) ∧
    ∀ complaints, MultiRequest.ofOctets refused = .error complaints →
      complaints.map Complaint.location = [[.field "root"], [.field "proof"]] := by
  intro zero single multi refused
  let digits := Digest.zero.octets.hexDigits
  -- The documents are read first: what they hold is then evaluated once for each field.
  have objectSingle : Json.readOctets? Request.bounds single = some (.object
      [("leaf", .text (.ofList (' ' :: '0' :: 'X' :: digits))), ("root", .text (.ofList digits))]) := by
    simp only [single, zero, Json.readOctets_ofText, String.toList_append, Digest.toList_bareHex]
    set_option maxRecDepth 4000 in rfl
  have objectMulti : Json.readOctets? Request.bounds multi = some (.object
      [("root", .text (.ofList digits)),
        ("leaves", .list [.text (.ofList digits), .text (.ofList ('\n' :: '0' :: 'x' :: digits))]),
        ("proof", .list [.text (.ofList ('0' :: 'X' :: digits))]),
        ("flags", .list [.boolean true, .text "no"])]) := by
    simp only [multi, zero, Json.readOctets_ofText, String.toList_append, Digest.toList_bareHex]
    set_option maxRecDepth 4000 in rfl
  have objectRefused : Json.readOctets? Request.bounds refused = some (.object
      [("root", .text ""), ("leaf", .text ""), ("proof", .list [.text "0x", .text "z"])]) := by
    simp only [refused, Json.readOctets_ofText]
    rfl
  have readSingle : SingleRequest.ofOctets single = .ok ⟨.zero, .zero, []⟩ := by
    rw [SingleRequest.ofOctets, Request.ofOctets_of_object objectSingle]
    decide +kernel
  have readMulti : MultiRequest.ofOctets multi =
      .ok ⟨.zero, [.zero, .zero], ⟨[.zero], [true, false]⟩⟩ := by
    rw [MultiRequest.ofOctets, Request.ofOctets_of_object objectMulti]
    decide +kernel
  refine ⟨requests_kept_in_canonical_texts.1 single _ readSingle,
    requests_kept_in_canonical_texts.2.1 multi _ readMulti, fun complaints failed => ?_,
    fun complaints failed => ?_⟩
  · exact (requests_kept_in_canonical_texts.2.2.1 refused _ objectRefused ⟨"", "", ["0x", "z"]⟩
      ⟨rfl, rfl, .given rfl⟩).located complaints failed
  · exact (requests_kept_in_canonical_texts.2.2.2 refused _ objectRefused ⟨"", [], ["0x", "z"], []⟩
      ⟨rfl, .absent rfl, .given rfl, .absent rfl⟩).located complaints failed

end Inclusion
