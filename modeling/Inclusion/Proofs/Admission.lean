import Inclusion.Proofs.Climb
import Inclusion.Proofs.Routes

/-! Whom a gate lets in. Asked or demanded, one leaf or a batch, a check is passed only where the
proof leads to the root of the gate. A demand that is not met is denied for what the question was
answered, and a fault that is not of the multiproof's shape comes out of either one as it is. -/

set_option autoImplicit false

namespace Inclusion

section
variable {builder : HashBuilder}

/-- What goes wrong on the way from a leaf: a value is no digest, or the hasher fails. -/
def Faulty (builder : HashBuilder) (values : List Value) (failure : Failure) : Prop :=
  (∃ value ∈ values, value.toDigest = .error failure) ∨
    ∃ chunks, builder.hash chunks = .error failure

theorem exists_hash_of_hashSorted {first second : Octets} {failure : Failure}
    (failed : builder.hashSorted first second = .error failure) :
    ∃ chunks, builder.hash chunks = .error failure := by
  unfold HashBuilder.hashSorted at failed
  split at failed
  · exact ⟨_, failed⟩
  · exact ⟨_, failed⟩

theorem faulty_of_climb {proof : List Value} {digest : Digest} {failure : Failure}
    (failed : climb builder proof digest = .error failure) : Faulty builder proof failure := by
  induction proof generalizing digest with
  | nil => cases failed
  | cons sibling proof ih =>
    change (sibling.toDigest >>= fun other =>
      builder.hashSorted digest.octets other.octets >>= climb builder proof) = _ at failed
    cases read : sibling.toDigest with
    | error fault =>
      rw [read] at failed
      cases failed
      exact .inl ⟨sibling, List.mem_cons_self, read⟩
    | ok other =>
      cases joined : builder.hashSorted digest.octets other.octets with
      | error fault =>
        simp only [read, bind, Except.bind, joined] at failed
        exact .inr (exists_hash_of_hashSorted (joined.trans failed))
      | ok parent =>
        simp only [read, bind, Except.bind, joined] at failed
        rcases ih failed with ⟨value, member, refused⟩ | hasher
        · exact .inl ⟨value, List.mem_cons_of_mem sibling member, refused⟩
        · exact .inr hasher

theorem faulty_of_processProof {proof : List Value} {leaf : Value} {failure : Failure}
    (failed : processProof builder proof leaf = .error failure) :
    Faulty builder (leaf :: proof) failure := by
  cases read : leaf.toDigest with
  | error fault =>
    simp only [processProof, read, bind, Except.bind, Except.error.injEq] at failed
    exact .inl ⟨leaf, List.mem_cons_self, read.trans (congrArg Except.error failed)⟩
  | ok digest =>
    rw [processProof_of_read proof read] at failed
    rcases faulty_of_climb failed with ⟨value, member, refused⟩ | hasher
    · exact .inl ⟨value, List.mem_cons_of_mem leaf member, refused⟩
    · exact .inr hasher

theorem Faulty.hasher_of_denied {values : List Value} {denial : Denial}
    (faulty : Faulty builder values (.denied denial)) :
    ∃ chunks, builder.hash chunks = .error (.denied denial) := by
  rcases faulty with ⟨value, _, refused⟩ | hasher
  · rcases toDigest_error_cases refused with ⟨kind, same⟩ | ⟨error, same⟩ <;> cases same
  · exact hasher

end

namespace Gate
variable (gate : Gate)

/-! ## One leaf -/

section
variable (leaf : Value) (proof : List Value)

theorem isAllowed_eq :
    gate.isAllowed leaf proof =
      gate.verifier.processProof proof leaf >>= fun computed => .ok (computed == gate.root) := rfl

theorem requireAllowed_eq :
    gate.requireAllowed leaf proof = gate.isAllowed leaf proof >>= fun allowed =>
      if allowed then .ok ()
      else leaf.toDigest >>= fun digest => .error (.denied (.leaf digest)) := rfl

variable {leaf proof}

theorem faulty_of_isAllowed {failure : Failure}
    (failed : gate.isAllowed leaf proof = .error failure) :
    Faulty gate.verifier.builder (leaf :: proof) failure := by
  rw [isAllowed_eq] at failed
  cases processed : gate.verifier.processProof proof leaf with
  | ok computed => simp [processed, bind, Except.bind] at failed
  | error fault =>
    simp only [processed, bind, Except.bind, Except.error.injEq] at failed
    exact faulty_of_processProof (processed.trans (congrArg Except.error failed))

theorem exists_digest_of_isAllowed {allowed : Bool}
    (answered : gate.isAllowed leaf proof = .ok allowed) :
    ∃ digest, leaf.toDigest = .ok digest := by
  cases read : leaf.toDigest with
  | ok digest => exact ⟨digest, rfl⟩
  | error failure =>
    simp [isAllowed_eq, Verifier.processProof, processProof, read, bind, Except.bind] at answered

theorem requireAllowed_of_true (answered : gate.isAllowed leaf proof = .ok true) :
    gate.requireAllowed leaf proof = .ok () := by
  rw [requireAllowed_eq, answered]
  rfl

theorem requireAllowed_of_false {digest : Digest} (answered : gate.isAllowed leaf proof = .ok false)
    (read : leaf.toDigest = .ok digest) :
    gate.requireAllowed leaf proof = .error (.denied (.leaf digest)) := by
  simp [requireAllowed_eq, answered, read, bind, Except.bind]

theorem requireAllowed_of_error {failure : Failure}
    (answered : gate.isAllowed leaf proof = .error failure) :
    gate.requireAllowed leaf proof = .error failure := by
  rw [requireAllowed_eq, answered]
  rfl

end

structure SingleVerdicts (leaf : Value) (proof : List Value) : Prop where
  proves : gate.isAllowed leaf proof = .ok true ↔
    gate.verifier.processProof proof leaf = .ok gate.root
  returns : gate.requireAllowed leaf proof = .ok () ↔ gate.isAllowed leaf proof = .ok true
  denies : gate.isAllowed leaf proof = .ok false → ∃ digest, leaf.toDigest = .ok digest ∧
    gate.requireAllowed leaf proof = .error (.denied (.leaf digest)) ∧
    (Failure.denied (.leaf digest)).message = digest.toHex ++ " is not in the allowlist"
  raises (failure : Failure) : gate.isAllowed leaf proof = .error failure →
    gate.requireAllowed leaf proof = .error failure ∧
      Faulty gate.verifier.builder (leaf :: proof) failure
  denied_iff :
    (∀ chunks denial, gate.verifier.builder.hash chunks ≠ .error (.denied denial)) →
      ((∃ denial, gate.requireAllowed leaf proof = .error (.denied denial)) ↔
        gate.isAllowed leaf proof = .ok false)

theorem singleVerdicts (leaf : Value) (proof : List Value) : gate.SingleVerdicts leaf proof where
  proves := verifyProof_eq_true_iff rfl
  returns := by
    constructor
    · intro returned
      cases answered : gate.isAllowed leaf proof with
      | error failure =>
        rw [gate.requireAllowed_of_error answered] at returned
        cases returned
      | ok allowed =>
        cases allowed with
        | true => rfl
        | false =>
          obtain ⟨digest, read⟩ := gate.exists_digest_of_isAllowed answered
          rw [gate.requireAllowed_of_false answered read] at returned
          cases returned
    · exact gate.requireAllowed_of_true
  denies answered := by
    obtain ⟨digest, read⟩ := gate.exists_digest_of_isAllowed answered
    exact ⟨digest, read, gate.requireAllowed_of_false answered read, rfl⟩
  raises failure answered :=
    ⟨gate.requireAllowed_of_error answered, gate.faulty_of_isAllowed answered⟩
  denied_iff lenient := by
    constructor
    · rintro ⟨denial, denied⟩
      cases answered : gate.isAllowed leaf proof with
      | error failure =>
        rw [gate.requireAllowed_of_error answered] at denied
        obtain rfl := Except.error.inj denied
        obtain ⟨chunks, refused⟩ := (gate.faulty_of_isAllowed answered).hasher_of_denied
        exact absurd refused (lenient chunks denial)
      | ok allowed =>
        cases allowed with
        | true =>
          rw [gate.requireAllowed_of_true answered] at denied
          cases denied
        | false => rfl
    · intro answered
      obtain ⟨digest, read⟩ := gate.exists_digest_of_isAllowed answered
      exact ⟨_, gate.requireAllowed_of_false answered read⟩

/-! ## A batch -/

section
variable (leaves proof flags : List Value) (session : Session)

def judged : Outcome Bool × Session :=
  gate.verifier.verifyMultiProof proof flags (.digest gate.root) leaves session

theorem judged_cases :
    (∃ allowed, (gate.judged leaves proof flags session).1.result = .ok allowed) ∨
      (∃ error, (gate.judged leaves proof flags session).1.result = .error (.multiProof error)) ∨
      ∃ failure, (∀ error, failure ≠ .multiProof error) ∧
        (gate.judged leaves proof flags session).1.result = .error failure := by
  cases (gate.judged leaves proof flags session).1.result with
  | ok allowed => exact .inl ⟨allowed, rfl⟩
  | error failure =>
    cases failure with
    | multiProof error => exact .inr (.inl ⟨error, rfl⟩)
    | _ => exact .inr (.inr ⟨_, by simp, rfl⟩)

theorem judged_eq_true_iff :
    (gate.judged leaves proof flags session).1.result = .ok true ↔
      (gate.verifier.processMultiProof proof flags leaves session).1 = .ok gate.root := by
  unfold judged
  rw [Verifier.verifyMultiProof_eq_true_iff]
  constructor
  · rintro ⟨computed, processed, same⟩
    exact processed.trans same.symm
  · exact fun processed => ⟨_, processed, rfl⟩

variable {leaves proof flags session}

theorem judged_of_result {result : Except Failure Bool}
    (found : (gate.judged leaves proof flags session).1.result = result) :
    gate.judged leaves proof flags session =
      (⟨rejections result leaves.length proof.length flags.length, result⟩,
        (gate.judged leaves proof flags session).2) := by
  subst found
  have told := gate.verifier.events_verifyMultiProof proof flags leaves session (.digest gate.root)
  exact Prod.ext (congrArg₂ Outcome.mk told rfl) rfl

theorem areAllowed_of_ok {allowed : Bool}
    (found : (gate.judged leaves proof flags session).1.result = .ok allowed) :
    gate.areAllowed leaves proof flags session =
      (.quiet (.ok allowed), (gate.judged leaves proof flags session).2) := by
  have all := gate.judged_of_result found
  unfold areAllowed judged at *
  rw [all]
  rfl

theorem requireAllAllowed_of_ok {allowed : Bool}
    (found : (gate.judged leaves proof flags session).1.result = .ok allowed) :
    gate.requireAllAllowed leaves proof flags session =
      (.quiet (if allowed then .ok () else .error (.denied (.batch leaves.length))),
        (gate.judged leaves proof flags session).2) := by
  have all := gate.judged_of_result found
  unfold requireAllAllowed judged at *
  rw [all]
  cases allowed <;> rfl

theorem areAllowed_of_multiProof {error : MultiProofError}
    (found : (gate.judged leaves proof flags session).1.result = .error (.multiProof error)) :
    gate.areAllowed leaves proof flags session =
      (⟨[.rejected error leaves.length proof.length flags.length], .ok false⟩,
        (gate.judged leaves proof flags session).2) := by
  have all := gate.judged_of_result found
  unfold areAllowed judged at *
  rw [all]
  rfl

theorem requireAllAllowed_of_multiProof {error : MultiProofError}
    (found : (gate.judged leaves proof flags session).1.result = .error (.multiProof error)) :
    gate.requireAllAllowed leaves proof flags session =
      (⟨[.rejected error leaves.length proof.length flags.length, .malformed error leaves.length],
        .error (.denied (.malformed error))⟩, (gate.judged leaves proof flags session).2) := by
  have all := gate.judged_of_result found
  unfold requireAllAllowed judged at *
  rw [all]
  rfl

-- What is no fault of the shape passes through both, and nothing is told of it.
theorem outcomes_of_failure {failure : Failure} (other : ∀ error, failure ≠ .multiProof error)
    (found : (gate.judged leaves proof flags session).1.result = .error failure) :
    gate.areAllowed leaves proof flags session =
        (.quiet (.error failure), (gate.judged leaves proof flags session).2) ∧
      gate.requireAllAllowed leaves proof flags session =
        (.quiet (.error failure), (gate.judged leaves proof flags session).2) := by
  have all := gate.judged_of_result found
  unfold areAllowed requireAllAllowed judged at *
  rw [all]
  cases failure with
  | multiProof error => exact absurd rfl (other error)
  | _ => exact ⟨rfl, rfl⟩

end

structure BatchVerdicts (leaves proof flags : List Value) (session : Session) : Prop where
  proves : (gate.areAllowed leaves proof flags session).1.result = .ok true ↔
    (gate.verifier.processMultiProof proof flags leaves session).1 = .ok gate.root
  refuses : (gate.areAllowed leaves proof flags session).1.result = .ok false ↔
    (gate.judged leaves proof flags session).1.result = .ok false ∨
      ∃ error, (gate.judged leaves proof flags session).1.result = .error (.multiProof error)
  returns : (gate.requireAllAllowed leaves proof flags session).1.result = .ok () ↔
    (gate.areAllowed leaves proof flags session).1.result = .ok true
  mismatch : (gate.judged leaves proof flags session).1.result = .ok false →
    (gate.requireAllAllowed leaves proof flags session).1 =
        .quiet (.error (.denied (.batch leaves.length))) ∧
      (Failure.denied (.batch leaves.length)).cause? = none
  malformed (error : MultiProofError) :
    (gate.judged leaves proof flags session).1.result = .error (.multiProof error) →
    (gate.requireAllAllowed leaves proof flags session).1 =
        ⟨[.rejected error leaves.length proof.length flags.length, .malformed error leaves.length],
          .error (.denied (.malformed error))⟩ ∧
      (Failure.denied (.malformed error)).cause? = some error ∧
      (Failure.denied (.malformed error)).message = "malformed multiproof: " ++ error.message
  raises (failure : Failure) : (∀ error, failure ≠ .multiProof error) →
    (gate.judged leaves proof flags session).1.result = .error failure →
    (gate.areAllowed leaves proof flags session).1 = .quiet (.error failure) ∧
      (gate.requireAllAllowed leaves proof flags session).1 = .quiet (.error failure)
  sessions : (gate.areAllowed leaves proof flags session).2 =
      (gate.judged leaves proof flags session).2 ∧
    (gate.requireAllAllowed leaves proof flags session).2 =
      (gate.judged leaves proof flags session).2

theorem batchVerdicts (leaves proof flags : List Value) (session : Session) :
    gate.BatchVerdicts leaves proof flags session := by
  have proven := gate.judged_eq_true_iff leaves proof flags session
  rcases gate.judged_cases leaves proof flags session with
    ⟨allowed, found⟩ | ⟨error, found⟩ | ⟨failure, other, found⟩
  · have asked := gate.areAllowed_of_ok found
    have demanded := gate.requireAllAllowed_of_ok found
    constructor
    case proves => rw [← proven, asked, found]; rfl
    case refuses => rw [asked, found]; simp [Outcome.quiet]
    case returns => rw [asked, demanded]; cases allowed <;> simp [Outcome.quiet]
    case mismatch =>
      intro refused
      obtain rfl : allowed = false := by simpa using found.symm.trans refused
      exact ⟨by rw [demanded]; rfl, rfl⟩
    case malformed => intro error failed; cases found.symm.trans failed
    case raises => intro failure _ failed; cases found.symm.trans failed
    case sessions => exact ⟨by rw [asked], by rw [demanded]⟩
  · have asked := gate.areAllowed_of_multiProof found
    have demanded := gate.requireAllAllowed_of_multiProof found
    constructor
    case proves => rw [← proven, asked, found]; simp
    case refuses => rw [asked, found]; simp
    case returns => rw [asked, demanded]; simp
    case mismatch => intro refused; cases found.symm.trans refused
    case malformed =>
      intro error' failed
      cases found.symm.trans failed
      exact ⟨by rw [demanded], rfl, rfl⟩
    case raises =>
      intro failure other failed
      cases found.symm.trans failed
      exact absurd rfl (other error)
    case sessions => exact ⟨by rw [asked], by rw [demanded]⟩
  · obtain ⟨asked, demanded⟩ := gate.outcomes_of_failure other found
    constructor
    case proves => rw [← proven, asked, found]; rfl
    case refuses => rw [asked, found]; simp [Outcome.quiet, other]
    case returns => rw [asked, demanded]; simp [Outcome.quiet]
    case mismatch => intro refused; cases found.symm.trans refused
    case malformed =>
      intro error failed
      cases found.symm.trans failed
      exact absurd rfl (other error)
    case raises =>
      intro failure' _ failed
      cases found.symm.trans failed
      exact ⟨by rw [asked], by rw [demanded]⟩
    case sessions => exact ⟨by rw [asked], by rw [demanded]⟩

def Proves : Check → Session → Prop
  | .single leaf proof, _ => gate.verifier.processProof proof leaf = .ok gate.root
  | .batch leaves proof flags, session =>
    (gate.verifier.processMultiProof proof flags leaves session).1 = .ok gate.root

end Gate

/-! ## Whole scripts -/

namespace Action

def soften : Action → Action
  | .demand gate check => .ask gate check
  | action => action

/-- A gate lets in whoever it answers yes to, and whoever meets its demand. -/
def Admits : Action → Session → Prop
  | .ask gate check, session => (gate.ask check session).1.result = .ok true
  | .demand gate check, session => (gate.demand check session).1.result = .ok ()
  | _, _ => False

theorem session_soften (action : Action) (session : Session) :
    (action.soften.perform session).2 = (action.perform session).2 := by
  cases action with
  | demand gate check =>
    cases check with
    | single leaf proof => rfl
    | batch leaves proof flags =>
      obtain ⟨asked, demanded⟩ := (gate.batchVerdicts leaves proof flags session).sessions
      exact asked.trans demanded.symm
  | _ => rfl

theorem admits_soften_iff (action : Action) (session : Session) :
    action.soften.Admits session ↔ action.Admits session := by
  cases action with
  | demand gate check =>
    cases check with
    | single leaf proof => exact (gate.singleVerdicts leaf proof).returns.symm
    | batch leaves proof flags => exact (gate.batchVerdicts leaves proof flags session).returns.symm
  | _ => rfl

theorem admits_ask_iff (gate : Gate) (check : Check) (session : Session) :
    (Action.ask gate check).Admits session ↔ gate.Proves check session := by
  cases check with
  | single leaf proof => exact (gate.singleVerdicts leaf proof).proves
  | batch leaves proof flags => exact (gate.batchVerdicts leaves proof flags session).proves

end Action

theorem Script.session_run_soften (history : List Action) (session : Session) :
    (run (history.map Action.soften) session).2 = (run history session).2 := by
  induction history generalizing session with
  | nil => rfl
  | cons action history ih =>
    rw [List.map_cons, run_cons, run_cons, action.session_soften, ih]

/-- A gate lets no one in whose proof does not lead to its root, and its four checks agree: a demand
is met where the question is answered yes, denied where it is answered no, and otherwise fails as the
question fails. So it is in a script of any length: demands may be put as questions without a
difference to the session or to who is let in. -/
theorem gate_fails_closed (gate : Gate) :
    (∀ leaf proof, gate.SingleVerdicts leaf proof) ∧
    (∀ leaves proof flags session, gate.BatchVerdicts leaves proof flags session) ∧
    ∀ history session,
      (Script.run (history.map Action.soften) session).2 = (Script.run history session).2 ∧
      (∀ action : Action, action.soften.Admits (Script.run (history.map Action.soften) session).2 ↔
        action.Admits (Script.run history session).2) ∧
      ∀ check, (Action.demand gate check).Admits (Script.run history session).2 ↔
        gate.Proves check (Script.run history session).2 := by
  refine ⟨gate.singleVerdicts, gate.batchVerdicts, fun history session => ⟨?_, ?_, ?_⟩⟩
  · exact Script.session_run_soften history session
  · intro action
    rw [Script.session_run_soften, Action.admits_soften_iff]
  · intro check
    rw [← Action.admits_soften_iff]
    exact Action.admits_ask_iff gate check _

/-- A leaf that is the root of its gate, and one that is not and is denied by its name. A batch
without a root is denied without a cause, and one of the wrong shape for its fault. -/
theorem gate_fails_closed_at_zero :
    let gate : Gate := ⟨.zero, ⟨HashName.keccak256.builder, none⟩⟩
    let other : Digest := ⟨List.replicate digestWidth 1, rfl⟩
    gate.requireAllowed (.digest .zero) [] = .ok () ∧
      (∃ digest, Value.toDigest (.digest other) = .ok digest ∧
        gate.requireAllowed (.digest other) [] = .error (.denied (.leaf digest))) ∧
      (gate.requireAllAllowed [.null, .null] [] [] (.start [])).1 =
        .quiet (.error (.denied (.batch 2))) ∧
      (gate.requireAllAllowed [] [] [.null] (.start [])).1 =
        ⟨[.rejected (.totalHashes 0 0 1) 0 0 1, .malformed (.totalHashes 0 0 1) 0],
          .error (.denied (.malformed (.totalHashes 0 0 1)))⟩ := by
  intro gate other
  obtain ⟨single, batch, _⟩ := gate_fails_closed gate
  refine ⟨?_, ?_, ?_, ?_⟩
  · exact (single (.digest .zero) []).returns.mpr rfl
  · obtain ⟨digest, read, denied, _⟩ := (single (.digest other) []).denies rfl
    exact ⟨digest, read, denied⟩
  · exact ((batch [.null, .null] [] [] (.start [])).mismatch rfl).1
  · exact ((batch [] [] [.null] (.start [])).malformed _ rfl).1

end Inclusion
