import Inclusion.Proofs.Precedence
import Inclusion.Proofs.Script

/-! The routes by which a batch is put: processed, verified against a root, or either of the two as a
multiproof of its own. All go by the same reconstruction, so they come out alike but for one case: a
batch without steps and without a sole value has no candidate for the root, and verifying answers no
where processing fails. -/

set_option autoImplicit false

namespace Inclusion

/-- No step, and not just one value: nothing can be taken for the root. -/
def Undecided (limits : Limits) (proof flags leaves : List Value) : Prop :=
  limits.Admits leaves.length proof.length flags.length ∧ flags = [] ∧
    leaves.length + proof.length ≠ 1

/-! ## What a reconstruction depends on -/

theorem length_eq_of_map {α β : Type} {f : α → β} {first second : List α}
    (same : first.map f = second.map f) : first.length = second.length := by
  simpa using congrArg List.length same

theorem mapM_toDigest_congr {values others : List Value}
    (same : values.map Value.toDigest = others.map Value.toDigest) :
    values.mapM Value.toDigest = others.mapM Value.toDigest := by
  have byReadings (list : List Value) :
      list.mapM Value.toDigest = (list.map Value.toDigest).mapM id := by
    rw [List.mapM_map]
    rfl
  rw [byReadings, byReadings, same]

section
variable {builder : HashBuilder} {limits : Limits} {proof flags leaves : List Value}

/-- Of its leaves and nodes a batch uses what they are read as, and of its flags their truth. -/
theorem reconstruct_congr {proof' flags' leaves' : List Value}
    (nodes : proof.map Value.toDigest = proof'.map Value.toDigest)
    (truths : flags.map Value.truth = flags'.map Value.truth)
    (leafs : leaves.map Value.toDigest = leaves'.map Value.toDigest) :
    reconstruct builder limits proof flags leaves =
      reconstruct builder limits proof' flags' leaves' := by
  have nodeCount := length_eq_of_map nodes
  have flagCount := length_eq_of_map truths
  have leafCount := length_eq_of_map leafs
  cases checked : limits.check leaves.length proof.length flags.length with
  | error error =>
    unfold reconstruct
    rw [← leafCount, ← nodeCount, ← flagCount, checked]
    rfl
  | ok =>
    have within : limits.Within leaves proof flags := checked
    have within' : limits.Within leaves' proof' flags' := by
      rwa [Limits.Within, ← leafCount, ← nodeCount, ← flagCount]
    by_cases none : flags = []
    · subst none
      obtain rfl : flags' = [] := by simpa using flagCount.symm
      rw [reconstruct_without_flags within, reconstruct_without_flags within']
      have all : (leaves ++ proof).map Value.toDigest = (leaves' ++ proof').map Value.toDigest := by
        rw [List.map_append, List.map_append, leafs, nodes]
      generalize leaves ++ proof = values at all
      generalize leaves' ++ proof' = values' at all
      -- As many values on either side, so that only sole values are read.
      rcases values with _ | ⟨sole, _ | ⟨second, rest⟩⟩
      · obtain rfl : values' = [] := by simpa using all.symm
        rfl
      · obtain ⟨sole', rfl, same⟩ : ∃ sole', values' = [sole'] ∧ sole'.toDigest = sole.toDigest := by
          simpa [List.map_eq_cons_iff] using all.symm
        exact congrArg (some <$> ·) same.symm
      · obtain ⟨first', second', rest', rfl⟩ : ∃ first' second' rest',
            values' = first' :: second' :: rest' := by
          obtain ⟨first', others, rfl, _, more⟩ := List.map_eq_cons_iff.mp all.symm
          obtain ⟨second', rest', rfl, _⟩ := List.map_eq_cons_iff.mp more
          exact ⟨first', second', rest', rfl⟩
        rfl
    · have some : flags' ≠ [] := by
        rintro rfl
        exact none (by simpa using flagCount)
      rw [reconstruct_of_within within none, reconstruct_of_within within' some,
        mapM_toDigest_congr leafs, mapM_toDigest_congr nodes, truths, leafCount, nodeCount, flagCount]

theorem reconstruct_eq_none_iff :
    reconstruct builder limits proof flags leaves = .ok none ↔
      Undecided limits proof flags leaves := by
  constructor
  · intro made
    have within := within_of_reconstruct made
    have admits := (limits.check_eq_ok_iff _ _ _).mp within
    by_cases none : flags = []
    · subst none
      refine ⟨admits, rfl, fun single => ?_⟩
      obtain ⟨sole, only⟩ := List.length_eq_one_iff.mp (List.length_append.trans single)
      rw [reconstruct_without_flags within, only] at made
      cases read : sole.toDigest <;> simp [read] at made
    · -- Where there are steps, the last of them makes a candidate.
      by_cases fit : leaves.length + proof.length = flags.length + 1
      · obtain ⟨digests, nodes, denoteLeaves, denoteProof⟩ := exists_denote_of_reconstruct none made
        rw [reconstruct_of_fit within none fit denoteLeaves denoteProof] at made
        cases ran : Cursors.start.run builder ⟨digests.toArray, nodes.toArray⟩ 0
            (flags.map Value.truth) with
        | error failure =>
          simp [combine, ran, bind, Except.bind] at made
        | ok cursors =>
          obtain ⟨root, _, combined⟩ := combine_of_run (by simpa using none)
            (by simpa [← denoteLeaves.length_eq, ← denoteProof.length_eq] using fit) ran
          simp [combined] at made
      · rw [reconstruct_of_mismatch within none fit] at made
        cases made
  · rintro ⟨admits, rfl, many⟩
    rw [reconstruct_without_flags admits.within]
    rw [← List.length_append] at many
    match leaves ++ proof, many with
    | [], _ => rfl
    | [_], many => exact absurd rfl many
    | _ :: _ :: _, _ => rfl

/-! ## Processing and verifying -/

theorem verifyMultiProof_of_undecided (undecided : Undecided limits proof flags leaves)
    (root : Value) :
    verifyMultiProof builder limits proof flags root leaves = .quiet (.ok false) := by
  unfold verifyMultiProof
  rw [reconstruct_eq_none_iff.mpr undecided]

theorem result_verifyMultiProof (decided : ¬ Undecided limits proof flags leaves) (root : Value) :
    (verifyMultiProof builder limits proof flags root leaves).result =
      processMultiProof builder limits proof flags leaves >>= fun computed =>
        root.toDigest.map (computed == ·) := by
  have candidate : reconstruct builder limits proof flags leaves ≠ .ok none :=
    fun none => decided (reconstruct_eq_none_iff.mp none)
  rw [processMultiProof_eq]
  unfold verifyMultiProof
  match reconstruct builder limits proof flags leaves, candidate with
  | .error failure, _ => cases failure <;> rfl
  | .ok none, candidate => exact absurd rfl candidate
  | .ok (some computed), _ => rfl

theorem toDigest_error_cases {value : Value} {failure : Failure}
    (refused : value.toDigest = .error failure) :
    (∃ kind, failure = .notDigestLike kind) ∨ ∃ error, failure = .digest error := by
  cases value with
  | buffer sort content =>
    cases made : Digest.ofOctets content with
    | ok digest => simp [Value.toDigest, made, Except.mapError] at refused
    | error error =>
      simp only [Value.toDigest, made, Except.mapError, Except.error.injEq] at refused
      exact .inr ⟨error, refused.symm⟩
  | text content =>
    cases made : Digest.ofHex content with
    | ok digest => simp [Value.toDigest, made, Except.mapError] at refused
    | error error =>
      simp only [Value.toDigest, made, Except.mapError, Except.error.injEq] at refused
      exact .inr ⟨error, refused.symm⟩
  | digest content => cases refused
  | _ => exact .inl ⟨_, (Except.error.inj refused).symm⟩

def rejections (result : Except Failure Bool) (leaves proof flags : Nat) : List Event :=
  match result with
  | .error (.multiProof error) => [.rejected error leaves proof flags]
  | _ => []

theorem events_verifyMultiProof (root : Value) :
    (verifyMultiProof builder limits proof flags root leaves).events =
      rejections (verifyMultiProof builder limits proof flags root leaves).result leaves.length
        proof.length flags.length := by
  unfold verifyMultiProof
  match reconstruct builder limits proof flags leaves with
  | .error failure => cases failure <;> rfl
  | .ok none => rfl
  | .ok (some computed) =>
    cases read : root.toDigest with
    | ok digest => rfl
    | error failure => rcases toDigest_error_cases read with ⟨kind, rfl⟩ | ⟨error, rfl⟩ <;> rfl

end

/-! ## Limits of a session -/

theorem Session.settings_cases (session : Session) :
    (∃ settings, session.settings.1 = .ok settings) ∨
      ∃ complaints, session.settings.1 = .error (.invalid complaints) := by
  cases kept : session.kept with
  | some settings =>
    rw [settings_of_kept kept]
    exact .inl ⟨settings, rfl⟩
  | none =>
    cases built : Settings.build (.ofEnvironment session.environment) with
    | ok settings =>
      rw [settings_of_built kept built]
      exact .inl ⟨settings, rfl⟩
    | error complaints =>
      rw [settings_of_refused kept built]
      exact .inr ⟨complaints, rfl⟩

namespace Verifier
variable (verifier : Verifier) (proof flags leaves : List Value) (session : Session)

theorem limits_cases :
    (∃ limits, (verifier.limits session).1 = .ok limits) ∨
      ∃ complaints, (verifier.limits session).1 = .error (.invalid complaints) := by
  obtain ⟨builder, _ | settings⟩ := verifier
  · change (∃ limits, session.settings.1.map Settings.limits = .ok limits) ∨
      ∃ complaints, session.settings.1.map Settings.limits = .error (.invalid complaints)
    rcases session.settings_cases with ⟨settings, found⟩ | ⟨complaints, refused⟩
    · exact .inl ⟨settings.limits, by rw [found]; rfl⟩
    · exact .inr ⟨complaints, by rw [refused]; rfl⟩
  · exact .inl ⟨settings.limits, rfl⟩

theorem limits_of_found (builder : HashBuilder) {settings : Settings}
    (found : session.settings.1 = .ok settings) :
    (Verifier.limits ⟨builder, none⟩ session).1 = .ok settings.limits :=
  congrArg (Except.map Settings.limits) found

theorem processMultiProof_limits :
    verifier.processMultiProof proof flags leaves session =
      ((verifier.limits session).1 >>= fun limits =>
        Inclusion.processMultiProof verifier.builder limits proof flags leaves,
      (verifier.limits session).2) := rfl

theorem verifyMultiProof_of_limits {limits : Limits}
    (found : (verifier.limits session).1 = .ok limits) (root : Value) :
    verifier.verifyMultiProof proof flags root leaves session =
      (Inclusion.verifyMultiProof verifier.builder limits proof flags root leaves,
        (verifier.limits session).2) := by
  unfold Verifier.verifyMultiProof
  simp only [found]

theorem verifyMultiProof_of_refused {complaints : List Complaint}
    (refused : (verifier.limits session).1 = .error (.invalid complaints)) (root : Value) :
    verifier.verifyMultiProof proof flags root leaves session =
      (.quiet (.error (.invalid complaints)), (verifier.limits session).2) := by
  unfold Verifier.verifyMultiProof
  simp only [refused]

def Undecides : Prop :=
  ∃ limits, (verifier.limits session).1 = .ok limits ∧ Undecided limits proof flags leaves

theorem result_verifyMultiProof (decides : ¬ verifier.Undecides proof flags leaves session)
    (root : Value) :
    (verifier.verifyMultiProof proof flags root leaves session).1.result =
      (verifier.processMultiProof proof flags leaves session).1 >>= fun computed =>
        root.toDigest.map (computed == ·) := by
  rw [processMultiProof_limits]
  rcases verifier.limits_cases session with ⟨limits, found⟩ | ⟨complaints, refused⟩
  · have decided : ¬ Undecided limits proof flags leaves := fun none => decides ⟨limits, found, none⟩
    rw [verifyMultiProof_of_limits _ _ _ _ _ found, found]
    exact Inclusion.result_verifyMultiProof decided root
  · rw [verifyMultiProof_of_refused _ _ _ _ _ refused, refused]
    rfl

theorem verifyMultiProof_eq_true_iff {root : Value} :
    (verifier.verifyMultiProof proof flags root leaves session).1.result = .ok true ↔
      ∃ computed, (verifier.processMultiProof proof flags leaves session).1 = .ok computed ∧
        root.toDigest = .ok computed := by
  rw [processMultiProof_limits]
  rcases verifier.limits_cases session with ⟨limits, found⟩ | ⟨complaints, refused⟩
  · rw [verifyMultiProof_of_limits _ _ _ _ _ found, found, Inclusion.verifyMultiProof_eq_true_iff]
    simp only [← processMultiProof_eq_ok_iff]
    rfl
  · rw [verifyMultiProof_of_refused _ _ _ _ _ refused, refused]
    simp [Outcome.quiet, bind, Except.bind]

theorem events_verifyMultiProof (root : Value) :
    (verifier.verifyMultiProof proof flags root leaves session).1.events =
      rejections (verifier.verifyMultiProof proof flags root leaves session).1.result leaves.length
        proof.length flags.length := by
  rcases verifier.limits_cases session with ⟨limits, found⟩ | ⟨complaints, refused⟩
  · rw [verifyMultiProof_of_limits _ _ _ _ _ found]
    exact Inclusion.events_verifyMultiProof root
  · rw [verifyMultiProof_of_refused _ _ _ _ _ refused]
    rfl

theorem session_verifyMultiProof (root : Value) :
    (verifier.verifyMultiProof proof flags root leaves session).2 = (verifier.limits session).2 := by
  rcases verifier.limits_cases session with ⟨limits, found⟩ | ⟨complaints, refused⟩
  · rw [verifyMultiProof_of_limits _ _ _ _ _ found]
  · rw [verifyMultiProof_of_refused _ _ _ _ _ refused]

section
variable {proof flags leaves} {proof' flags' leaves' : List Value}
  (nodes : proof.map Value.toDigest = proof'.map Value.toDigest)
  (truths : flags.map Value.truth = flags'.map Value.truth)
  (leafs : leaves.map Value.toDigest = leaves'.map Value.toDigest)
include nodes truths leafs

theorem processMultiProof_congr :
    verifier.processMultiProof proof flags leaves session =
      verifier.processMultiProof proof' flags' leaves' session := by
  have nodeCount := length_eq_of_map nodes
  have flagCount := length_eq_of_map truths
  have leafCount := length_eq_of_map leafs
  simp only [processMultiProof_limits, processMultiProof_eq, reconstruct_congr nodes truths leafs,
    nodeCount, flagCount, leafCount]

theorem verifyMultiProof_congr (root : Value) :
    verifier.verifyMultiProof proof flags root leaves session =
      verifier.verifyMultiProof proof' flags' root leaves' session := by
  have nodeCount := length_eq_of_map nodes
  have flagCount := length_eq_of_map truths
  have leafCount := length_eq_of_map leafs
  unfold Verifier.verifyMultiProof Inclusion.verifyMultiProof
  simp only [reconstruct_congr nodes truths leafs, nodeCount, flagCount, leafCount]

end

end Verifier

/-! ## Multiproofs of their own -/

theorem Denote.map_toDigest {values : List Value} {digests : List Digest}
    (denote : Denote values digests) : values.map Value.toDigest = digests.map .ok := by
  induction denote with
  | nil => rfl
  | cons head _ ih => rw [List.map_cons, List.map_cons, head, ih]

namespace MultiProof

theorem mapM_strictFlag {flags : List Value} {truths : List Bool} :
    flags.mapM strictFlag = .ok truths ↔ flags = truths.map .boolean := by
  have strict (flag : Value) (truth : Bool) :
      strictFlag flag = .ok truth ↔ flag = .boolean truth := by
    cases flag <;> simp [strictFlag]
  rw [mapM_eq_ok_iff]
  simp only [strict]
  rw [← List.forall₂_map_right_iff, List.forall₂_eq_eq_eq]

theorem ofValues_eq_ok_iff {proof flags : List Value} {multiProof : MultiProof} :
    ofValues proof flags = .ok multiProof ↔
      Denote proof multiProof.proof ∧ flags = multiProof.flagValues := by
  obtain ⟨nodes, truths⟩ := multiProof
  change (proof.mapM Value.toDigest >>= fun nodes => flags.mapM strictFlag >>= fun truths =>
    .ok (MultiProof.mk nodes truths)) = _ ↔ Denote proof nodes ∧ flags = truths.map .boolean
  rw [← mapM_strictFlag]
  constructor
  · intro made
    cases readNodes : proof.mapM Value.toDigest with
    | error failure =>
      rw [readNodes] at made
      cases made
    | ok digests =>
      cases readFlags : flags.mapM strictFlag with
      | error failure =>
        rw [readNodes, readFlags] at made
        cases made
      | ok booleans =>
        rw [readNodes, readFlags] at made
        cases made
        exact ⟨denote_of_mapM readNodes, rfl⟩
  · rintro ⟨denote, read⟩
    rw [denote.mapM, read]
    rfl

section
variable {proof flags : List Value} {multiProof : MultiProof}
  (made : ofValues proof flags = .ok multiProof)
include made

theorem map_toDigest_proofValues :
    multiProof.proofValues.map Value.toDigest = proof.map Value.toDigest := by
  obtain ⟨denote, _⟩ := ofValues_eq_ok_iff.mp made
  rw [denote.map_toDigest]
  exact (denote_map_digest multiProof.proof).map_toDigest

theorem map_truth_flagValues : multiProof.flagValues.map Value.truth = flags.map Value.truth := by
  obtain ⟨_, same⟩ := ofValues_eq_ok_iff.mp made
  rw [same]

end

end MultiProof

/-! ## Agreement -/

structure RoutesAgree (verifier : Verifier) (proof flags leaves : List Value) (session : Session) :
    Prop where
  undecided (root : Value) : verifier.Undecides proof flags leaves session →
    (verifier.verifyMultiProof proof flags root leaves session).1 = .quiet (.ok false) ∧
      (verifier.processMultiProof proof flags leaves session).1 =
        .error (.multiProof (.totalHashes leaves.length proof.length 0))
  returned (root : Value) (computed : Digest) : ¬ verifier.Undecides proof flags leaves session →
    (verifier.processMultiProof proof flags leaves session).1 = .ok computed →
    (verifier.verifyMultiProof proof flags root leaves session).1.result =
      root.toDigest.map (computed == ·)
  raised (root : Value) (failure : Failure) : ¬ verifier.Undecides proof flags leaves session →
    (verifier.processMultiProof proof flags leaves session).1 = .error failure →
    (verifier.verifyMultiProof proof flags root leaves session).1.result = .error failure
  events (root : Value) :
    (verifier.verifyMultiProof proof flags root leaves session).1.events =
      match (verifier.verifyMultiProof proof flags root leaves session).1.result with
      | .error (.multiProof error) => [.rejected error leaves.length proof.length flags.length]
      | _ => []
  silent : ((Action.processBatch verifier proof flags leaves).perform session).1.events = []
  sessions (root : Value) :
    (verifier.verifyMultiProof proof flags root leaves session).2 =
      (verifier.processMultiProof proof flags leaves session).2
  truths (root : Value) :
    verifier.processMultiProof proof (flags.map fun flag => .boolean flag.truth) leaves session =
        verifier.processMultiProof proof flags leaves session ∧
      verifier.verifyMultiProof proof (flags.map fun flag => .boolean flag.truth) root leaves
        session = verifier.verifyMultiProof proof flags root leaves session

theorem routesAgree (verifier : Verifier) (proof flags leaves : List Value) (session : Session) :
    RoutesAgree verifier proof flags leaves session where
  undecided root undecides := by
    obtain ⟨limits, found, undecided⟩ := undecides
    constructor
    · rw [verifier.verifyMultiProof_of_limits proof flags leaves session found]
      exact verifyMultiProof_of_undecided undecided root
    · obtain ⟨admits, rfl, many⟩ := undecided
      rw [verifier.processMultiProof_limits, found]
      exact processMultiProof_of_sizeFault (.candidates admits rfl many)
  returned root computed decides made := by
    rw [verifier.result_verifyMultiProof proof flags leaves session decides, made]
    rfl
  raised root failure decides failed := by
    rw [verifier.result_verifyMultiProof proof flags leaves session decides, failed]
    rfl
  events root := verifier.events_verifyMultiProof proof flags leaves session root
  silent := rfl
  sessions root := verifier.session_verifyMultiProof proof flags leaves session root
  truths root := by
    have same : (flags.map fun flag => Value.boolean flag.truth).map Value.truth =
        flags.map Value.truth := by
      rw [List.map_map]
      rfl
    exact ⟨verifier.processMultiProof_congr session rfl same rfl,
      verifier.verifyMultiProof_congr session rfl same rfl root⟩

/-- However a batch is put, it comes out the same. Only where nothing can be taken for the root does
verifying answer no, whatever the root is, and processing fail. Flags count by their truth, and a
multiproof of its own, which is made of digests and truth values alone, goes the way of the values
that it was made of. -/
theorem batch_routes_agree (verifier : Verifier) (proof flags leaves : List Value)
    (session : Session) :
    RoutesAgree verifier proof flags leaves session ∧
      ((∃ multiProof, MultiProof.ofValues proof flags = .ok multiProof) ↔
        (∃ nodes, Denote proof nodes) ∧ ∃ truths : List Bool, flags = truths.map .boolean) ∧
      ∀ multiProof, MultiProof.ofValues proof flags = .ok multiProof → ∀ builder,
        multiProof.process builder leaves session =
            Verifier.processMultiProof ⟨builder, none⟩ proof flags leaves session ∧
          ∀ root, multiProof.verify builder root leaves session =
            Verifier.verifyMultiProof ⟨builder, none⟩ proof flags root leaves session := by
  refine ⟨routesAgree verifier proof flags leaves session, ⟨?_, ?_⟩, ?_⟩
  · rintro ⟨multiProof, made⟩
    obtain ⟨denote, same⟩ := MultiProof.ofValues_eq_ok_iff.mp made
    exact ⟨⟨_, denote⟩, _, same⟩
  · rintro ⟨⟨nodes, denote⟩, truths, same⟩
    exact ⟨⟨nodes, truths⟩, MultiProof.ofValues_eq_ok_iff.mpr ⟨denote, same⟩⟩
  · intro multiProof made builder
    have nodes := MultiProof.map_toDigest_proofValues made
    have truths := MultiProof.map_truth_flagValues made
    exact ⟨Verifier.processMultiProof_congr _ session nodes truths rfl,
      Verifier.verifyMultiProof_congr _ session nodes truths rfl⟩

/-- Two leaves and no step have no root, in whatever root they are verified against. With a step to
join them, a leaf that is no digest is told on either route, although the root is no digest either. -/
theorem batch_routes_agree_without_candidate :
    let verifier : Verifier := ⟨HashName.keccak256.builder, some ⟨⟨2, 2, 2⟩, .keccak256, "INFO"⟩⟩
    let session := Session.start []
    (verifier.verifyMultiProof [] [] .null [.null, .text ""] session).1 = .quiet (.ok false) ∧
      (verifier.verifyMultiProof [] [.integer 3] .null [.digest .zero, .null] session).1.result =
        .error (.notDigestLike .null) ∧
      (MultiProof.mk [.zero] [true]).verify HashName.sha3.builder .null [.null] session =
        Verifier.verifyMultiProof ⟨HashName.sha3.builder, none⟩
          [.buffer .view Digest.zero.octets] [.boolean true] .null [.null] session := by
  intro verifier session
  have read : Value.toDigest (.buffer .view Digest.zero.octets) = .ok .zero := by
    change (Digest.ofOctets Digest.zero.octets).mapError .digest = .ok .zero
    rw [Digest.ofOctets_octets]
    rfl
  have bundled : MultiProof.ofValues [.buffer .view Digest.zero.octets] [.boolean true] =
      .ok ⟨[.zero], [true]⟩ :=
    MultiProof.ofValues_eq_ok_iff.mpr ⟨.cons read .nil, rfl⟩
  have without : verifier.Undecides [] [] [.null, .text ""] session :=
    ⟨⟨2, 2, 2⟩, rfl, ⟨by decide, by decide, by decide⟩, rfl, by decide⟩
  have stepped : ¬ verifier.Undecides [] [.integer 3] [.digest .zero, .null] session :=
    fun ⟨_, _, _, empty, _⟩ => by cases empty
  refine ⟨?_, ?_, ?_⟩
  · exact ((batch_routes_agree verifier [] [] [.null, .text ""] session).1.undecided .null without).1
  · exact (batch_routes_agree verifier [] [.integer 3] [.digest .zero, .null] session).1.raised .null
      _ stepped rfl
  · exact ((batch_routes_agree verifier _ _ [.null] session).2.2 _ bundled _).2 .null

end Inclusion
