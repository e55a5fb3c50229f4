import Inclusion.Settings.Basic
import Mathlib.Tactic.Common

/-! What values mean in the fields of settings. Texts are said by texts and by octets that encode them,
integers in several ways more. Reading finds exactly what a value means. -/

set_option autoImplicit false

namespace Inclusion.Settings

/-- A value says a text as it is, or as octets in UTF-8, though not as those that a window shows. -/
inductive SaysText : Value → String → Prop where
  | text (content : String) : SaysText (.text content) content
  | fixed (content : String) : SaysText (.buffer .fixed (.ofText content)) content
  | growable (content : String) : SaysText (.buffer .growable (.ofText content)) content
  | digest {digest : Digest} {content : String} : Octets.ofText content = digest.octets →
      SaysText (.digest digest) content

/-- An integer is said by a number without a fraction, by a truth or by a numeral. Doubles are exact up
to the size of a word, and octets that can change say no numeral. -/
inductive SaysInteger : Value → Int → Prop where
  | integer (whole : Int) : SaysInteger (.integer whole) whole
  | boolean (content : Bool) : SaysInteger (.boolean content) (if content then 1 else 0)
  | float {content : Binary64} {whole : Int} : content.toInt? = some whole →
      Binary64.isWord whole = true → SaysInteger (.float content) whole
  | numeral {value : Value} {content : String} {whole : Int} : SaysText value content →
      value.kind ≠ .buffer .growable → Numeral.read content = .integer whole →
      SaysInteger value whole

def MeansLimit (value : Value) (bound : Nat) : Prop :=
  SaysInteger value bound ∧ 0 < bound

def MeansHash (value : Value) (hash : HashName) : Prop :=
  ∃ content, SaysText value content ∧ Text.lowerCase content = hash.text

def MeansLevel (value : Value) (level : String) : Prop :=
  ∃ content, SaysText value content ∧ Text.upperCase content = level

theorem meansLimit_integer {bound : Nat} (positive : 0 < bound) : MeansLimit (.integer bound) bound :=
  ⟨.integer bound, positive⟩

/-! ## Reading -/

theorem bind_eq_ok_iff {α β : Type} {first : Except Fault α} {next : α → Except Fault β} {result : β} :
    first >>= next = .ok result ↔ ∃ content, first = .ok content ∧ next content = .ok result := by
  cases first <;> simp [Bind.bind, Except.bind]

theorem decode_eq_ok_iff {fault : Fault} {octets : Octets} {content : String} :
    decode fault octets = .ok content ↔ Octets.ofText content = octets := by
  rw [← Octets.toText_eq_some_iff, decode]
  cases octets.toText? <;> simp

theorem readText_eq_ok_iff {value : Value} {content : String} :
    readText value = .ok content ↔ SaysText value content := by
  constructor
  · intro read
    unfold readText at read
    split at read
    next => cases read; exact .text content
    next => obtain rfl := decode_eq_ok_iff.mp read; exact .fixed content
    next => obtain rfl := decode_eq_ok_iff.mp read; exact .growable content
    next => exact .digest (decode_eq_ok_iff.mp read)
    next => cases read
  · intro said
    cases said with
    | text => rfl
    | fixed => exact decode_eq_ok_iff.mpr rfl
    | growable => exact decode_eq_ok_iff.mpr rfl
    | digest encodes => exact decode_eq_ok_iff.mpr encodes

theorem SaysText.unique {value : Value} {first second : String} (said : SaysText value first)
    (saidToo : SaysText value second) : first = second :=
  Except.ok.inj ((readText_eq_ok_iff.mpr said).symm.trans (readText_eq_ok_iff.mpr saidToo))

theorem readNumeral_eq_ok_iff {content : String} {whole : Int} :
    readNumeral content = .ok whole ↔ Numeral.read content = .integer whole := by
  unfold readNumeral
  cases Numeral.read content <;> simp

theorem readInteger_eq_ok_iff {value : Value} {whole : Int} :
    readInteger value = .ok whole ↔ SaysInteger value whole := by
  constructor
  · intro read
    unfold readInteger at read
    split at read
    next => cases read; exact .integer whole
    next content => cases read; exact .boolean content
    next =>
      split at read
      next exact =>
        split at read
        next word => cases read; exact .float exact word
        next => cases read
      next => cases read
    next content => exact .numeral (.text content) nofun (readNumeral_eq_ok_iff.mp read)
    next =>
      obtain ⟨content, decoded, spelled⟩ := bind_eq_ok_iff.mp read
      obtain rfl := decode_eq_ok_iff.mp decoded
      exact .numeral (.fixed content) nofun (readNumeral_eq_ok_iff.mp spelled)
    next =>
      obtain ⟨content, decoded, spelled⟩ := bind_eq_ok_iff.mp read
      exact .numeral (.digest (decode_eq_ok_iff.mp decoded)) nofun
        (readNumeral_eq_ok_iff.mp spelled)
    next => cases read
  · intro said
    cases said with
    | integer => rfl
    | boolean => rfl
    | float exact word => simp [readInteger, exact, word]
    | numeral said lasting numeral =>
      have read := readNumeral_eq_ok_iff.mpr numeral
      cases said with
      | text => exact read
      | fixed => exact bind_eq_ok_iff.mpr ⟨_, decode_eq_ok_iff.mpr rfl, read⟩
      | growable => exact absurd rfl lasting
      | digest encodes => exact bind_eq_ok_iff.mpr ⟨_, decode_eq_ok_iff.mpr encodes, read⟩

theorem readLimit_eq_ok_iff {value : Value} {bound : Nat} :
    readLimit value = .ok bound ↔ MeansLimit value bound := by
  unfold readLimit MeansLimit
  rw [bind_eq_ok_iff, ← readInteger_eq_ok_iff]
  constructor
  · rintro ⟨whole, read, positive⟩
    split at positive
    next above =>
      cases positive
      rw [Int.toNat_of_nonneg (Int.le_of_lt above)]
      exact ⟨read, by omega⟩
    next => cases positive
  · rintro ⟨read, positive⟩
    refine ⟨bound, read, ?_⟩
    rw [if_pos (Int.natCast_pos.mpr positive)]
    rfl

theorem readHash_eq_ok_iff {value : Value} {hash : HashName} :
    readHash value = .ok hash ↔ MeansHash value hash := by
  unfold readHash MeansHash
  simp only [bind_eq_ok_iff, readText_eq_ok_iff]
  refine exists_congr fun content => and_congr_right fun _ => ?_
  rw [← HashName.ofText_eq_some_iff, ← HashName.ofAnyCase?]
  cases HashName.ofAnyCase? content <;> simp [Pure.pure, Except.pure, throw, throwThe, MonadExceptOf.throw]

theorem readLevel_eq_ok_iff {value : Value} {level : String} :
    readLevel value = .ok level ↔ MeansLevel value level := by
  unfold readLevel MeansLevel
  simp only [bind_eq_ok_iff, readText_eq_ok_iff]
  refine exists_congr fun content => and_congr_right fun _ => ?_
  simp [Pure.pure, Except.pure]

end Inclusion.Settings
