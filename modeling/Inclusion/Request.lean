import Inclusion.Complaint
import Inclusion.Json.Reader
import Inclusion.Proof.MultiProof

/-! Requests: JSON documents that carry a proof together with the root to check it against. A
document is judged field by field; unknown fields are ignored, and of equal fields the last counts. -/

set_option autoImplicit false

namespace Inclusion

structure SingleRequest where
  root : Digest
  leaf : Digest
  proof : List Digest
  deriving DecidableEq

structure MultiRequest where
  root : Digest
  leaves : List Digest
  multiProof : MultiProof
  deriving DecidableEq

namespace Request

abbrev Entries := List (String × Json)

def bounds : Json.Bounds := ⟨200, 4300⟩

/-! ## Digests -/

def readDigest (entries : Entries) (field : String) : Except (List Complaint) Digest :=
  match Json.lookup? entries field with
  | none => .error [.about field .missing]
  | some (.text spelling) =>
    (Digest.ofHex spelling).mapError fun error => [.about field (.digest error)]
  | some _ => .error [.about field .notString]

def texts (field : String) (position : Nat) : List Json → Except (List Complaint) (List String)
  | [] => .ok []
  | .text spelling :: items => (texts field (position + 1) items).map (spelling :: ·)
  | _ :: items =>
    let complaint : Complaint := ⟨[.field field, .index position], .notString⟩
    match texts field (position + 1) items with
    | .ok _ => .error [complaint]
    | .error complaints => .error (complaint :: complaints)

/-- Spellings are read once all items are known to be texts, and the first that spells no digest is
the one complaint about the field. -/
def readDigests (entries : Entries) (field : String) : Except (List Complaint) (List Digest) :=
  match Json.lookup? entries field with
  | none => .ok []
  | some (.list items) => do
    let spellings ← texts field 0 items
    (spellings.mapM Digest.ofHex).mapError fun error => [.about field (.digest error)]
  | some _ => .error [.about field .notList]

/-! ## Flags -/

def trueWords : List String := ["1", "on", "t", "true", "y", "yes"]
def falseWords : List String := ["0", "off", "f", "false", "n", "no"]

/-- Integers of sixty-four bits are taken for attempts at a flag, others are not. -/
def integerFlag (value : Int) : Except Fault Bool :=
  if value == 0 then .ok false
  else if value == 1 then .ok true
  else if Int64.minValue.toInt ≤ value && value ≤ Int64.maxValue.toInt then .error .unknownBoolean
  else .error .notBoolean

def readFlag : Json → Except Fault Bool
  | .boolean value => .ok value
  | .integer value => integerFlag value
  | .real value =>
    match value.toInt? with
    | some whole => if Binary64.isWord whole then integerFlag whole else .error .notBoolean
    | none => .error .notBoolean
  | .text word =>
    let word := String.ofList (word.toList.map Char.toLower)
    if trueWords.contains word then .ok true
    else if falseWords.contains word then .ok false
    else .error .unknownBoolean
  | _ => .error .notBoolean

def flagItems (field : String) (position : Nat) : List Json → Except (List Complaint) (List Bool)
  | [] => .ok []
  | item :: items =>
    match readFlag item, flagItems field (position + 1) items with
    | .ok flag, .ok flags => .ok (flag :: flags)
    | .ok _, .error complaints => .error complaints
    | .error fault, rest =>
      let complaint : Complaint := ⟨[.field field, .index position], fault⟩
      match rest with
      | .ok _ => .error [complaint]
      | .error complaints => .error (complaint :: complaints)

def readFlags (entries : Entries) (field : String) : Except (List Complaint) (List Bool) :=
  match Json.lookup? entries field with
  | none => .ok []
  | some (.list items) => flagItems field 0 items
  | some _ => .error [.about field .notList]

/-! ## Whole documents -/

def complaints {α : Type} : Except (List Complaint) α → List Complaint
  | .error complaints => complaints
  | .ok _ => []

def ofOctets {α : Type} (read : Entries → Except (List Complaint) α) (octets : Octets) :
    Except (List Complaint) α :=
  match Json.readOctets? bounds octets with
  | none => .error [⟨[], .notJson⟩]
  | some (.object entries) => read entries
  | some _ => .error [⟨[], .notObject⟩]

end Request

namespace SingleRequest

def ofEntries (entries : Request.Entries) : Except (List Complaint) SingleRequest :=
  let root := Request.readDigest entries "root"
  let leaf := Request.readDigest entries "leaf"
  let proof := Request.readDigests entries "proof"
  match root, leaf, proof with
  | .ok root, .ok leaf, .ok proof => .ok ⟨root, leaf, proof⟩
  | _, _, _ =>
    .error (Request.complaints root ++ Request.complaints leaf ++ Request.complaints proof)

def ofOctets (octets : Octets) : Except (List Complaint) SingleRequest :=
  Request.ofOctets ofEntries octets

def toEntries (request : SingleRequest) : Request.Entries :=
  [("root", .text request.root.toHex), ("leaf", .text request.leaf.toHex),
    ("proof", .list (request.proof.map fun digest => .text digest.toHex))]

end SingleRequest

namespace MultiRequest

def ofEntries (entries : Request.Entries) : Except (List Complaint) MultiRequest :=
  let root := Request.readDigest entries "root"
  let leaves := Request.readDigests entries "leaves"
  let proof := Request.readDigests entries "proof"
  let flags := Request.readFlags entries "flags"
  match root, leaves, proof, flags with
  | .ok root, .ok leaves, .ok proof, .ok flags => .ok ⟨root, leaves, ⟨proof, flags⟩⟩
  | _, _, _, _ =>
    .error (Request.complaints root ++ Request.complaints leaves ++ Request.complaints proof ++
      Request.complaints flags)

def ofOctets (octets : Octets) : Except (List Complaint) MultiRequest :=
  Request.ofOctets ofEntries octets

def toEntries (request : MultiRequest) : Request.Entries :=
  [("root", .text request.root.toHex),
    ("leaves", .list (request.leaves.map fun digest => .text digest.toHex)),
    ("proof", .list (request.multiProof.proof.map fun digest => .text digest.toHex)),
    ("flags", .list (request.multiProof.flags.map .boolean))]

end MultiRequest

end Inclusion
