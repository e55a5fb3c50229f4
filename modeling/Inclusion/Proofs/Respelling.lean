import Inclusion.Proofs.Spelling

/-! Other spellings of the same digests. Whatever a caller does, its values are read as digests before
anything is compared, hashed or told, so that answers, events and the session stay what they were when
values are replaced by others for the same digests. -/

set_option autoImplicit false

namespace Inclusion

namespace Value

/-- Both are accepted as one digest, whether as octets, as a digest or as a spelling. -/
def Equivalent (first second : Value) : Prop :=
  ∃ digest, first.toDigest = .ok digest ∧ second.toDigest = .ok digest

def Respelled (first second : Value) : Prop := first = second ∨ first.Equivalent second

theorem Respelled.toDigest_eq {first second : Value} (respelled : first.Respelled second) :
    first.toDigest = second.toDigest := by
  rcases respelled with rfl | ⟨digest, read, other⟩
  · rfl
  · rw [read, other]

end Value

def Respelling (values others : List Value) : Prop := List.Forall₂ Value.Respelled values others

theorem Respelling.map_toDigest {values others : List Value} (respelling : Respelling values others) :
    values.map Value.toDigest = others.map Value.toDigest := by
  induction respelling with
  | nil => rfl
  | cons head _ ih => rw [List.map_cons, List.map_cons, head.toDigest_eq, ih]

theorem Respelling.refl (values : List Value) : Respelling values values :=
  List.forall₂_same.mpr fun _ _ => .inl rfl

/-! ## Single proofs -/

section
variable (builder : HashBuilder) {proof proof' : List Value} (nodes : Respelling proof proof')
include nodes

theorem climb_respelled (digest : Digest) :
    climb builder proof digest = climb builder proof' digest := by
  induction nodes generalizing digest with
  | nil => rfl
  | cons head _ ih => simp only [climb, head.toDigest_eq, ih]

theorem processProof_respelled {leaf leaf' : Value} (same : leaf.Respelled leaf') :
    processProof builder proof leaf = processProof builder proof' leaf' := by
  simp only [processProof, same.toDigest_eq, climb_respelled builder nodes]

theorem verifyProof_respelled {root root' leaf leaf' : Value} (sameRoot : root.Respelled root')
    (same : leaf.Respelled leaf') :
    verifyProof builder proof root leaf = verifyProof builder proof' root' leaf' := by
  simp only [verifyProof, sameRoot.toDigest_eq, processProof_respelled builder nodes same]

end

/-! ## Multiproofs -/

section
variable {proof proof' leaves leaves' : List Value} (nodes : Respelling proof proof')
include nodes

namespace Verifier
variable (verifier : Verifier) (flags : List Value) (session : Session)
  (leafs : Respelling leaves leaves')
include leafs

theorem processMultiProof_respelled :
    verifier.processMultiProof proof flags leaves session =
      verifier.processMultiProof proof' flags leaves' session :=
  verifier.processMultiProof_congr session nodes.map_toDigest rfl leafs.map_toDigest

theorem verifyMultiProof_respelled {root root' : Value} (same : root.Respelled root') :
    verifier.verifyMultiProof proof flags root leaves session =
      verifier.verifyMultiProof proof' flags root' leaves' session := by
  rw [verifier.verifyMultiProof_congr session nodes.map_toDigest rfl leafs.map_toDigest]
  unfold Verifier.verifyMultiProof Inclusion.verifyMultiProof
  simp only [same.toDigest_eq]

end Verifier

theorem MultiProof.ofValues_respelled (flags : List Value) :
    ofValues proof flags = ofValues proof' flags := by
  simp only [ofValues, mapM_toDigest_congr nodes.map_toDigest]

end

def MultiProof.Respelled (first second : MultiProof) : Prop :=
  ∃ proof proof' flags, Respelling proof proof' ∧ ofValues proof flags = .ok first ∧
    ofValues proof' flags = .ok second

theorem MultiProof.Respelled.eq {first second : MultiProof} (respelled : first.Respelled second) :
    first = second := by
  obtain ⟨proof, proof', flags, nodes, made, remade⟩ := respelled
  rw [ofValues_respelled nodes flags, remade] at made
  exact (Except.ok.inj made).symm

/-! ## Gates -/

theorem Gate.ofValue_respelled {root root' : Value} (same : root.Respelled root')
    (verifier : Verifier) : ofValue root verifier = ofValue root' verifier := by
  rw [ofValue, ofValue, same.toDigest_eq]

def Gate.Respelled (first second : Gate) : Prop :=
  ∃ root root' verifier, root.Respelled root' ∧ ofValue root verifier = .ok first ∧
    ofValue root' verifier = .ok second

theorem Gate.Respelled.eq {first second : Gate} (respelled : first.Respelled second) :
    first = second := by
  obtain ⟨root, root', verifier, same, made, remade⟩ := respelled
  rw [ofValue_respelled same, remade] at made
  exact (Except.ok.inj made).symm

inductive Check.Respelled : Check → Check → Prop where
  | single {leaf leaf' : Value} {proof proof' : List Value} : leaf.Respelled leaf' →
      Respelling proof proof' → Respelled (.single leaf proof) (.single leaf' proof')
  | batch {leaves leaves' proof proof' : List Value} (flags : List Value) :
      Respelling leaves leaves' → Respelling proof proof' →
        Respelled (.batch leaves proof flags) (.batch leaves' proof' flags)

namespace Gate
variable (gate : Gate) (session : Session)

theorem isAllowed_respelled {leaf leaf' : Value} {proof proof' : List Value}
    (same : leaf.Respelled leaf') (nodes : Respelling proof proof') :
    gate.isAllowed leaf proof = gate.isAllowed leaf' proof' :=
  verifyProof_respelled gate.verifier.builder nodes (.inl rfl) same

theorem ask_respelled {check check' : Check} (respelled : check.Respelled check') :
    gate.ask check session = gate.ask check' session := by
  cases respelled with
  | single same nodes => simp only [ask, gate.isAllowed_respelled same nodes]
  | batch flags leafs nodes =>
    simp only [ask, areAllowed,
      gate.verifier.verifyMultiProof_respelled nodes flags session leafs (.inl rfl)]

theorem demand_respelled {check check' : Check} (respelled : check.Respelled check') :
    gate.demand check session = gate.demand check' session := by
  cases respelled with
  | single same nodes =>
    simp only [demand, requireAllowed, gate.isAllowed_respelled same nodes, same.toDigest_eq]
  | batch flags leafs nodes =>
    simp only [demand, requireAllAllowed, leafs.length_eq,
      gate.verifier.verifyMultiProof_respelled nodes flags session leafs (.inl rfl)]

end Gate

/-! ## Actions and scripts -/

inductive Action.Respelled : Action → Action → Prop where
  | same (action : Action) : Respelled action action
  | process (verifier : Verifier) {proof proof' : List Value} {leaf leaf' : Value} :
      Respelling proof proof' → leaf.Respelled leaf' →
        Respelled (.process verifier proof leaf) (.process verifier proof' leaf')
  | verify (verifier : Verifier) {proof proof' : List Value} {root root' leaf leaf' : Value} :
      Respelling proof proof' → root.Respelled root' → leaf.Respelled leaf' →
        Respelled (.verify verifier proof root leaf) (.verify verifier proof' root' leaf')
  | processBatch (verifier : Verifier) {proof proof' leaves leaves' : List Value}
      (flags : List Value) : Respelling proof proof' → Respelling leaves leaves' →
        Respelled (.processBatch verifier proof flags leaves)
          (.processBatch verifier proof' flags leaves')
  | verifyBatch (verifier : Verifier) {proof proof' leaves leaves' : List Value}
      {root root' : Value} (flags : List Value) : Respelling proof proof' →
        root.Respelled root' → Respelling leaves leaves' →
          Respelled (.verifyBatch verifier proof flags root leaves)
            (.verifyBatch verifier proof' flags root' leaves')
  | bundle {proof proof' : List Value} (flags : List Value) : Respelling proof proof' →
      Respelled (.bundle proof flags) (.bundle proof' flags)
  | compare {multiProof multiProof' : MultiProof} {proof proof' : List Value}
      (flags : List Value) : multiProof.Respelled multiProof' → Respelling proof proof' →
        Respelled (.compare multiProof proof flags) (.compare multiProof' proof' flags)
  | processBundle {multiProof multiProof' : MultiProof} (builder : HashBuilder)
      {leaves leaves' : List Value} : multiProof.Respelled multiProof' →
        Respelling leaves leaves' →
          Respelled (.processBundle multiProof builder leaves)
            (.processBundle multiProof' builder leaves')
  | verifyBundle {multiProof multiProof' : MultiProof} (builder : HashBuilder)
      {root root' : Value} {leaves leaves' : List Value} : multiProof.Respelled multiProof' →
        root.Respelled root' → Respelling leaves leaves' →
          Respelled (.verifyBundle multiProof builder root leaves)
            (.verifyBundle multiProof' builder root' leaves')
  | openGate {root root' : Value} (verifier : Verifier) : root.Respelled root' →
      Respelled (.openGate root verifier) (.openGate root' verifier)
  | ask {gate gate' : Gate} {check check' : Check} : gate.Respelled gate' →
      check.Respelled check' → Respelled (.ask gate check) (.ask gate' check')
  | demand {gate gate' : Gate} {check check' : Check} : gate.Respelled gate' →
      check.Respelled check' → Respelled (.demand gate check) (.demand gate' check')

theorem Action.Respelled.perform_eq {first second : Action} (respelled : first.Respelled second)
    (session : Session) : first.perform session = second.perform session := by
  cases respelled with
  | same => rfl
  | process verifier nodes same =>
    simp only [perform, Verifier.processProof, processProof_respelled verifier.builder nodes same]
  | verify verifier nodes sameRoot same =>
    simp only [perform, Verifier.verify, verifyProof_respelled verifier.builder nodes sameRoot same]
  | processBatch verifier flags nodes leafs =>
    simp only [perform, verifier.processMultiProof_respelled nodes flags session leafs]
  | verifyBatch verifier flags nodes same leafs =>
    simp only [perform, verifier.verifyMultiProof_respelled nodes flags session leafs same]
  | bundle flags nodes => simp only [perform, MultiProof.ofValues_respelled nodes]
  | compare flags respelled nodes =>
    simp only [perform, respelled.eq, MultiProof.ofValues_respelled nodes]
  | processBundle builder respelled leafs =>
    -- A multiproof holds digests, so that of its arguments only the leaves can still differ.
    simp only [perform, respelled.eq, MultiProof.process,
      Verifier.processMultiProof_respelled (.refl _) _ _ session leafs]
  | verifyBundle builder respelled same leafs =>
    simp only [perform, respelled.eq, MultiProof.verify,
      Verifier.verifyMultiProof_respelled (.refl _) _ _ session leafs same]
  | openGate verifier same => simp only [perform, Gate.ofValue_respelled same]
  | ask opened respelled => simp only [perform, opened.eq, Gate.ask_respelled _ _ respelled]
  | demand opened respelled => simp only [perform, opened.eq, Gate.demand_respelled _ _ respelled]

theorem Script.run_respelled {first second : List Action}
    (respelled : List.Forall₂ Action.Respelled first second) (session : Session) :
    run first session = run second session := by
  induction respelled generalizing session with
  | nil => rfl
  | cons head _ ih => rw [run_cons, run_cons, head.perform_eq, ih]

/-- Values may be replaced by others for the same digests, wherever a root, a leaf or a node is asked
for: gates and multiproofs are made alike, and every action of a script is answered alike, with the same
failure or result and the same events, and leaves the same session behind. -/
theorem spelling_makes_no_difference :
    (∀ (verifier : Verifier) (root root' : Value), root.Respelled root' →
      Gate.ofValue root verifier = Gate.ofValue root' verifier) ∧
    (∀ flags proof proof', Respelling proof proof' →
      MultiProof.ofValues proof flags = MultiProof.ofValues proof' flags) ∧
    (∀ first second : Action, first.Respelled second → ∀ session,
      first.perform session = second.perform session) ∧
    ∀ first second, List.Forall₂ Action.Respelled first second → ∀ session,
      Script.run first session = Script.run second session := by
  refine ⟨fun verifier _ _ same => ?_, fun flags _ _ nodes => ?_, fun _ _ respelled session => ?_,
    fun _ _ respelled session => ?_⟩
  · exact Gate.ofValue_respelled same verifier
  · exact MultiProof.ofValues_respelled nodes flags
  · exact respelled.perform_eq session
  · exact Script.run_respelled respelled session

/-- A gate made from a spelling and one made from octets are the same gate. A batch with a leaf that is
no digest fails alike before it, and so does a proof with one broken node, however the rest is written. -/
theorem spelling_makes_no_difference_to_gate :
    let verifier : Verifier := ⟨HashName.sha256.builder, some ⟨⟨2, 2, 2⟩, .sha256, "INFO"⟩⟩
    let spelled : Value := .text Digest.zero.toHex
    let raw : Value := .buffer .growable Digest.zero.octets
    let gate : Gate := ⟨.zero, verifier⟩
    Gate.ofValue spelled verifier = Gate.ofValue raw verifier ∧
      (Action.openGate spelled verifier).perform (.start []) =
        (Action.openGate raw verifier).perform (.start []) ∧
      Script.run [.demand gate (.batch [spelled, .null] [raw] [.boolean true, .boolean false]),
          .verify verifier [spelled, .text "0x"] raw spelled] (.start []) =
        Script.run [.demand gate (.batch [raw, .null] [spelled] [.boolean true, .boolean false]),
          .verify verifier [raw, .text "0x"] spelled raw] (.start []) := by
  intro verifier spelled raw gate
  have readSpelled : spelled.toDigest = .ok .zero := by
    simp [spelled, Value.toDigest, Except.mapError]
  have readRaw : raw.toDigest = .ok .zero := by
    simp [raw, Value.toDigest, Except.mapError]
  have respelled : spelled.Respelled raw := .inr ⟨.zero, readSpelled, readRaw⟩
  have back : raw.Respelled spelled := .inr ⟨.zero, readRaw, readSpelled⟩
  have reopened : gate.Respelled gate :=
    ⟨spelled, raw, verifier, respelled, by rw [Gate.ofValue, readSpelled]; rfl,
      by rw [Gate.ofValue, readRaw]; rfl⟩
  obtain ⟨gates, _, actions, scripts⟩ := spelling_makes_no_difference
  refine ⟨gates verifier _ _ respelled, actions _ _ (.openGate verifier respelled) _, ?_⟩
  have batch : Check.Respelled (.batch [spelled, .null] [raw] [.boolean true, .boolean false])
      (.batch [raw, .null] [spelled] [.boolean true, .boolean false]) :=
    .batch _ (.cons respelled (.cons (.inl rfl) .nil)) (.cons back .nil)
  exact scripts _ _ (.cons (.demand reopened batch)
    (.cons (.verify verifier (.cons respelled (.cons (.inl rfl) .nil)) back respelled) .nil)) _

end Inclusion
