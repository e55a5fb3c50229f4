import Inclusion.Proofs.Climb
import Inclusion.Proofs.Invocation
import Inclusion.Proofs.Shape
import Inclusion.Proofs.Spelling

/-! The exit status of a run. It tells what the library makes of the proof file, for every command
line that asks for a check, and nothing that happens on the way is left unhandled. -/

set_option autoImplicit false

namespace Inclusion

/-! ## Verification of digests -/

section
variable {builder : HashBuilder}

theorem exists_verifyProof {h : Octets → Digest} (computes : builder.Computes h)
    (proof : List Digest) (root leaf : Digest) :
    ∃ holds, verifyProof builder (proof.map .digest) (.digest root) (.digest leaf) = .ok holds := by
  have read : (Value.digest leaf).toDigest = .ok leaf := rfl
  have processed := processProof_eq computes read (denote_map_digest proof)
  refine ⟨leaf.ascend h proof == root, ?_⟩
  rw [verifyProof_eq, processed]
  rfl

variable (total : builder.Total) (limits : Limits) {proof leaves : List Value} (flags : List Value)
  {digests nodes : List Digest} (denoteLeaves : Denote leaves digests)
  (denoteProof : Denote proof nodes)
include total denoteLeaves denoteProof

/-- Where every value is a digest and no hasher fails, only the shape can be at fault. -/
theorem processMultiProof_cases :
    (∃ root, processMultiProof builder limits proof flags leaves = .ok root) ∨
      ∃ error, processMultiProof builder limits proof flags leaves = .error (.multiProof error) := by
  -- Sizes first, then the three ways in which the false flags can stand to the nodes.
  cases checked : limits.check leaves.length proof.length flags.length with
  | error error => exact .inr ⟨error, processMultiProof_of_check_error checked⟩
  | ok =>
    have decides := shapeDecides total denoteLeaves denoteProof checked
    by_cases empty : flags.map Value.truth = []
    · by_cases single : digests.length + nodes.length = 1
      · obtain ⟨sole, only⟩ := List.length_eq_one_iff.mp (List.length_append.trans single)
        exact .inl ⟨sole, decides.sole sole empty only⟩
      · exact .inr ⟨_, decides.candidates empty single⟩
    · by_cases fit : digests.length + nodes.length = (flags.map Value.truth).length + 1
      · rcases Nat.lt_trichotomy ((flags.map Value.truth).count false) nodes.length with
          few | balanced | many
        · obtain ⟨step, _, told⟩ := decides.stall empty fit few
          exact .inr ⟨_, told⟩
        · exact .inl ((decides.accepted_iff empty fit).mpr balanced)
        · exact .inr ⟨_, decides.overrun empty fit many⟩
      · exact .inr ⟨_, decides.mismatch empty fit⟩

theorem verifyMultiProof_cases (root : Digest) :
    (∃ holds,
        (verifyMultiProof builder limits proof flags (.digest root) leaves).result = .ok holds) ∨
      ∃ error, (verifyMultiProof builder limits proof flags (.digest root) leaves).result =
        .error (.multiProof error) := by
  by_cases undecided : Undecided limits proof flags leaves
  · rw [verifyMultiProof_of_undecided undecided]
    exact .inl ⟨false, rfl⟩
  · rw [result_verifyMultiProof undecided]
    rcases processMultiProof_cases total limits flags denoteLeaves denoteProof with
      ⟨computed, made⟩ | ⟨error, made⟩
    · rw [made]
      exact .inl ⟨computed == root, rfl⟩
    · rw [made]
      exact .inr ⟨error, rfl⟩

end

namespace Verifier

theorem exists_verify (hash : HashName) (settings : Option Settings) (proof : List Digest)
    (root leaf : Digest) :
    ∃ holds, Verifier.verify ⟨hash.builder, settings⟩ (proof.map .digest) (.digest root)
      (.digest leaf) = .ok holds := by
  obtain ⟨h, computes⟩ := hash.computes
  exact exists_verifyProof computes proof root leaf

theorem verifyMultiProof_cases (hash : HashName) {session : Session} {settings : Settings}
    (found : session.settings.1 = .ok settings) (multiProof : MultiProof) (root : Digest)
    (leaves : List Digest) :
    (∃ holds, (Verifier.verifyMultiProof ⟨hash.builder, none⟩ multiProof.proofValues
        multiProof.flagValues (.digest root) (leaves.map .digest) session).1.result = .ok holds) ∨
      ∃ error, (Verifier.verifyMultiProof ⟨hash.builder, none⟩ multiProof.proofValues
        multiProof.flagValues (.digest root) (leaves.map .digest) session).1.result =
          .error (.multiProof error) := by
  rw [verifyMultiProof_of_limits _ _ _ _ _ (limits_of_found session hash.builder found)]
  exact Inclusion.verifyMultiProof_cases hash.total settings.limits multiProof.flagValues
    (denote_map_digest leaves) (denote_map_digest multiProof.proof) root

end Verifier

namespace CommandLine

/-! ## Verdicts -/

/-- What the library makes of a proof file: complaints about the document, or else the verification of
the request in it. -/
def Command.verdict (verifier : Verifier) (session : Session) (octets : Octets) :
    Command → Except (List Complaint) (Except Failure Bool)
  | .verify => (SingleRequest.ofOctets octets).map fun request =>
    verifier.verify (request.proof.map .digest) (.digest request.root) (.digest request.leaf)
  | .verifyMulti => (MultiRequest.ofOctets octets).map fun request =>
    (verifier.verifyMultiProof request.multiProof.proofValues request.multiProof.flagValues
      (.digest request.root) (request.leaves.map .digest) session).1.result

theorem Command.verdict_congr (command : Command) (builder : HashBuilder)
    {session session' : Session} {settings settings' : Settings}
    (found : session.settings.1 = .ok settings) (found' : session'.settings.1 = .ok settings')
    (same : settings.limits = settings'.limits) {octets : Octets} :
    command.verdict ⟨builder, none⟩ session octets =
      command.verdict ⟨builder, none⟩ session' octets := by
  cases command with
  | verify => rfl
  | verifyMulti =>
    have limits := Verifier.limits_of_found session builder found
    have limits' := Verifier.limits_of_found session' builder found'
    simp only [verdict]
    congr 1
    funext request
    rw [Verifier.verifyMultiProof_of_limits _ _ _ _ _ limits,
      Verifier.verifyMultiProof_of_limits _ _ _ _ _ limits', same]

/-- How a run ends that tells a verdict, and what it prints. -/
inductive Tells : Except (List Complaint) (Except Failure Bool) → Ending → String → Prop where
  | valid : Tells (.ok (.ok true)) (.exit valid) "✓ Proof is valid\n"
  | mismatch : Tells (.ok (.ok false)) (.exit mismatch) "✗ Proof does not match root\n"
  | misshapen (error : MultiProofError) :
    Tells (.ok (.error (.multiProof error))) (.exit malformed) ""
  | refused (complaints : List Complaint) : Tells (.error complaints) (.exit malformed) ""

namespace Tells
variable {verdict : Except (List Complaint) (Except Failure Bool)} {ending : Ending} {output : String}

theorem of_holds (holds : Bool) (records : List Fields) :
    Tells (.ok (.ok holds)) (Transcript.verdict holds records).ending
      (Transcript.verdict holds records).output := by
  cases holds with
  | true => exact .valid
  | false => exact .mismatch

theorem functional (tells : Tells verdict ending output) {ending' : Ending} {output' : String}
    (tells' : Tells verdict ending' output') : ending = ending' ∧ output = output' := by
  cases tells <;> cases tells' <;> exact ⟨rfl, rfl⟩

theorem valid_iff (tells : Tells verdict ending output) :
    ending = .exit CommandLine.valid ↔ verdict = .ok (.ok true) := by
  cases tells <;> simp [CommandLine.valid, CommandLine.mismatch, malformed]

theorem mismatch_iff (tells : Tells verdict ending output) :
    ending = .exit CommandLine.mismatch ↔ verdict = .ok (.ok false) := by
  cases tells <;> simp [CommandLine.valid, CommandLine.mismatch, malformed]

theorem malformed_iff (tells : Tells verdict ending output) :
    ending = .exit malformed ↔ (∃ complaints, verdict = .error complaints) ∨
      ∃ error, verdict = .ok (.error (.multiProof error)) := by
  cases tells <;> simp [CommandLine.valid, CommandLine.mismatch, malformed]

theorem ne_escaped (tells : Tells verdict ending output) (failure : Failure) :
    ending ≠ .escaped failure := by
  cases tells <;> simp

end Tells

namespace Task
variable (task : Task)

theorem reject_tells (complaints : List Complaint) :
    Tells (.error complaints) (task.reject complaints).ending (task.reject complaints).output :=
  .refused complaints

theorem checkSingle_tells (request : SingleRequest) :
    Tells (.ok (task.verifier.verify (request.proof.map .digest) (.digest request.root)
        (.digest request.leaf)))
      (task.checkSingle request).ending (task.checkSingle request).output := by
  obtain ⟨holds, verified⟩ :=
    Verifier.exists_verify task.hash none request.proof request.root request.leaf
  change task.verifier.verify _ _ _ = _ at verified
  unfold checkSingle
  rw [verified]
  exact .of_holds holds []

theorem checkMulti_tells {settings : Settings} (found : task.session.settings.1 = .ok settings)
    (request : MultiRequest) :
    Tells (.ok (task.verifier.verifyMultiProof request.multiProof.proofValues
        request.multiProof.flagValues (.digest request.root) (request.leaves.map .digest)
        task.session).1.result)
      (task.checkMulti request).ending (task.checkMulti request).output := by
  have cases := Verifier.verifyMultiProof_cases task.hash found request.multiProof request.root
    request.leaves
  change (∃ holds, (task.verifier.verifyMultiProof _ _ _ _ task.session).1.result = _) ∨
    ∃ error, (task.verifier.verifyMultiProof _ _ _ _ task.session).1.result = _ at cases
  simp only [checkMulti]
  rcases cases with ⟨holds, judged⟩ | ⟨error, judged⟩
  · rw [judged]
    exact .of_holds holds _
  · rw [judged]
    exact .misshapen error

theorem check_tells {settings : Settings} (found : task.session.settings.1 = .ok settings)
    (octets : Octets) :
    Tells (task.command.verdict task.verifier task.session octets) (task.check octets).ending
      (task.check octets).output := by
  unfold check
  cases task.command with
  | verify =>
    cases read : SingleRequest.ofOctets octets with
    | error complaints =>
      simp only [Command.verdict, read, Except.map]
      exact task.reject_tells complaints
    | ok request =>
      simp only [Command.verdict, read, Except.map]
      exact task.checkSingle_tells request
  | verifyMulti =>
    cases read : MultiRequest.ofOctets octets with
    | error complaints =>
      simp only [Command.verdict, read, Except.map]
      exact task.reject_tells complaints
    | ok request =>
      simp only [Command.verdict, read, Except.map]
      exact task.checkMulti_tells found request

end Task

/-! ## Runs -/

/-- A command line with what surrounds it: settings that can be used, and a file that can be read. -/
structure Invocation where
  line : Line
  environment : Environment
  settings : Settings
  built : Settings.build (.ofEnvironment environment) = .ok settings
  known : (Listener.namedThresholds.lookup settings.logLevel).isSome = true
  files : String → FileState
  octets : Octets
  readable : files line.path = .content octets

namespace Invocation
variable (invocation : Invocation)

def transcript : Transcript :=
  run invocation.line.arguments invocation.environment invocation.files

def hash : HashName := invocation.line.options.hash.getD invocation.settings.defaultHash

def verdict : Except (List Complaint) (Except Failure Bool) :=
  invocation.line.command.verdict ⟨invocation.hash.builder, none⟩ (.start invocation.environment)
    invocation.octets

theorem settings_start :
    (Session.start invocation.environment).settings.1 = .ok invocation.settings :=
  congrArg Prod.fst (Session.settings_of_built rfl invocation.built)

def task (listener : Listener) : Task :=
  ⟨invocation.line.command, invocation.line.path, [], invocation.hash, listener,
    ⟨invocation.environment, some invocation.settings⟩⟩

theorem exists_transcript_eq :
    ∃ listener, invocation.transcript = (invocation.task listener).check invocation.octets := by
  obtain ⟨listener, started⟩ := start_line invocation.line invocation.built invocation.known
  refine ⟨listener, ?_⟩
  simp only [transcript, run, started, invocation.readable]
  rfl

theorem tells :
    Tells invocation.verdict invocation.transcript.ending invocation.transcript.output := by
  obtain ⟨listener, same⟩ := invocation.exists_transcript_eq
  have found : (invocation.task listener).session.settings.1 = .ok invocation.settings := rfl
  rw [same, verdict, Command.verdict_congr _ _ invocation.settings_start found rfl]
  exact (invocation.task listener).check_tells found invocation.octets

end Invocation

structure ExitStatus (invocation : Invocation) : Prop where
  valid : invocation.transcript.ending = .exit valid ↔ invocation.verdict = .ok (.ok true)
  mismatch : invocation.transcript.ending = .exit mismatch ↔ invocation.verdict = .ok (.ok false)
  malformed : invocation.transcript.ending = .exit malformed ↔
    (∃ complaints, invocation.verdict = .error complaints) ∨
      ∃ error, invocation.verdict = .ok (.error (.multiProof error))
  handled (failure : Failure) : invocation.transcript.ending ≠ .escaped failure

/-- A run exits by the verdict of the library on the proof file, and no failure escapes from it. It
ends alike and prints the same wherever the command, the hash function, the limits and the file are
the same, at whatever log level. And what a request is kept as reads as the request again. -/
theorem exit_status_eq_verdict (invocation : Invocation) :
    ExitStatus invocation ∧
    (∀ other : Invocation, other.line.command = invocation.line.command →
      other.hash = invocation.hash → other.settings.limits = invocation.settings.limits →
      other.octets = invocation.octets →
      other.transcript.ending = invocation.transcript.ending ∧
        other.transcript.output = invocation.transcript.output) ∧
    (∀ request, SingleRequest.ofOctets invocation.octets = .ok request →
      SingleRequest.ofEntries request.toEntries = .ok request) ∧
    ∀ request, MultiRequest.ofOctets invocation.octets = .ok request →
      MultiRequest.ofEntries request.toEntries = .ok request ∧
        MultiProof.ofValues (request.multiProof.proof.map fun digest => .text digest.toHex)
          request.multiProof.flagValues = .ok request.multiProof := by
  have tells := invocation.tells
  refine ⟨⟨tells.valid_iff, tells.mismatch_iff, tells.malformed_iff, tells.ne_escaped⟩, ?_, ?_, ?_⟩
  · intro other command hash limits octets
    have same : other.verdict = invocation.verdict := by
      unfold Invocation.verdict
      rw [command, hash, octets]
      exact Command.verdict_congr _ _ other.settings_start invocation.settings_start limits
    have tells' := other.tells
    rw [same] at tells'
    exact tells'.functional tells
  · exact fun request _ => request.ofEntries_toEntries
  · exact fun request _ => ⟨request.ofEntries_toEntries, request.multiProof.ofValues_toHex⟩

/-- A leaf that is the root itself, checked with options of either form under settings that name
another hash function and another level. -/
theorem exit_status_eq_verdict_of_sole_leaf :
    let document : Octets := .ofText ("\x7b\"leaf\": \" " ++ Digest.zero.bareHex ++ "\", \"root\": \"" ++
      Digest.zero.toHex ++ "\"\x7d")
    (run ["--log-level=Debug", "--hasher", "sha256", "verify", "proof.json"]
      [("MERKLE_LOG_LEVEL", "warning"), ("MERKLE_DEFAULT_HASHER", "SHA3_256")]
      fun _ => .content document).ending = .exit valid := by
  intro document
  have object : Json.readOctets? Request.bounds document = some (.object
      [("leaf", .text (.ofList (' ' :: Digest.zero.octets.hexDigits))),
        ("root", .text (.ofList ('0' :: 'x' :: Digest.zero.octets.hexDigits)))]) := by
    simp only [document, Json.readOctets_ofText, String.toList_append, Digest.toList_bareHex,
      Digest.toList_toHex]
    set_option maxRecDepth 4000 in rfl
  have read : SingleRequest.ofOctets document = .ok ⟨.zero, .zero, []⟩ := by
    rw [SingleRequest.ofOctets, Request.ofOctets, object]
    decide +kernel
  let invocation : Invocation := {
    line := {
      choices := [.level "Debug" true (by decide +kernel), .hash .sha256 false]
      command := .verify
      marked := false
      path := "proof.json"
      plain := fun _ => by decide
      clean := by decide }
    environment := [("MERKLE_LOG_LEVEL", "warning"), ("MERKLE_DEFAULT_HASHER", "SHA3_256")]
    settings := ⟨⟨65536, 65536, 131072⟩, .sha3, "WARNING"⟩
    built := by decide +kernel
    known := by decide
    files := fun _ => .content document
    octets := document
    readable := rfl }
  have arguments : invocation.line.arguments =
      ["--log-level=Debug", "--hasher", "sha256", "verify", "proof.json"] := by
    decide
  have accepted : invocation.verdict = .ok (.ok true) := by
    change ((SingleRequest.ofOctets document).map fun request =>
      Verifier.verify ⟨invocation.hash.builder, none⟩ (request.proof.map .digest)
        (.digest request.root) (.digest request.leaf)) = _
    rw [read]
    rfl
  have exits := (exit_status_eq_verdict invocation).1.valid.mpr accepted
  rwa [Invocation.transcript, arguments] at exits

end CommandLine

end Inclusion
