import Inclusion.Proofs.Shape

/-! The order in which a multiproof is judged, for values of every kind and by every builder. The three
sizes come first, then the values are read one after the other, and only then do steps run. So a fault
of the sizes is told whatever the values are, and a value that is no digest is told whatever the steps
would do. -/

set_option autoImplicit false

namespace Inclusion

def Limits.Admits (limits : Limits) (leaves proof flags : Nat) : Prop :=
  leaves ≤ limits.leaves ∧ proof ≤ limits.proof ∧ flags ≤ limits.flags

/-- The faults that three sizes show by themselves: the first that is over its limit, and after that a
number of values that does not fit the number of steps. -/
inductive SizeFault (limits : Limits) (leaves proof flags : Nat) : MultiProofError → Prop where
  | leaves : limits.leaves < leaves →
      SizeFault limits leaves proof flags (.tooLarge .leaves leaves limits.leaves)
  | proof : leaves ≤ limits.leaves → limits.proof < proof →
      SizeFault limits leaves proof flags (.tooLarge .proof proof limits.proof)
  | flags : leaves ≤ limits.leaves → proof ≤ limits.proof → limits.flags < flags →
      SizeFault limits leaves proof flags (.tooLarge .flags flags limits.flags)
  | candidates : limits.Admits leaves proof flags → flags = 0 → leaves + proof ≠ 1 →
      SizeFault limits leaves proof flags (.totalHashes leaves proof 0)
  | total : limits.Admits leaves proof flags → flags ≠ 0 → leaves + proof ≠ flags + 1 →
      SizeFault limits leaves proof flags (.totalHashes leaves proof flags)

def Limits.Fits (limits : Limits) (leaves proof flags : Nat) : Prop :=
  limits.Admits leaves proof flags ∧ leaves + proof = flags + 1

def FirstRefused (values : List Value) (failure : Failure) : Prop :=
  ∃ before value after digests, values = before ++ value :: after ∧ Denote before digests ∧
    value.toDigest = .error failure

/-- The first value that is no digest among the leaves, or among the nodes if the leaves are digests. -/
inductive Unreadable (leaves proof : List Value) (failure : Failure) : Prop where
  | leaf : FirstRefused leaves failure → Unreadable leaves proof failure
  | node (digests : List Digest) : Denote leaves digests → FirstRefused proof failure →
      Unreadable leaves proof failure

def Cursors.Stops (builder : HashBuilder) (supply : Supply) (flags : List Bool) (failure : Failure) :
    Prop :=
  ∃ step flag cursors, flags[step]? = some flag ∧
    start.run builder supply 0 (flags.take step) = .ok cursors ∧
    cursors.advance builder supply step flag = .error failure

/-- How a multiproof is judged. Each stage is reached only where none before it has a fault. -/
inductive Judged (builder : HashBuilder) (limits : Limits) (proof flags leaves : List Value) :
    Except Failure Digest → Prop where
  | size (error : MultiProofError) :
      SizeFault limits leaves.length proof.length flags.length error →
      Judged builder limits proof flags leaves (.error (.multiProof error))
  | sole (value : Value) : limits.Fits leaves.length proof.length flags.length → flags = [] →
      leaves ++ proof = [value] → Judged builder limits proof flags leaves value.toDigest
  | unreadable (failure : Failure) : limits.Fits leaves.length proof.length flags.length →
      flags ≠ [] → Unreadable leaves proof failure →
      Judged builder limits proof flags leaves (.error failure)
  | stops (digests nodes : List Digest) (failure : Failure) :
      limits.Fits leaves.length proof.length flags.length → flags ≠ [] → Denote leaves digests →
      Denote proof nodes →
      Cursors.Stops builder ⟨digests.toArray, nodes.toArray⟩ (flags.map Value.truth) failure →
      Judged builder limits proof flags leaves (.error failure)
  | root (digests nodes : List Digest) (cursors : Cursors) (root : Digest) :
      limits.Fits leaves.length proof.length flags.length → flags ≠ [] → Denote leaves digests →
      Denote proof nodes →
      Cursors.start.run builder ⟨digests.toArray, nodes.toArray⟩ 0 (flags.map Value.truth) =
        .ok cursors →
      cursors.hashes.back? = some root → Judged builder limits proof flags leaves (.ok root)

/-! ## Sizes -/

theorem exists_sizeFault_or_fits (limits : Limits) (leaves proof flags : Nat) :
    (∃ error, SizeFault limits leaves proof flags error) ∨ limits.Fits leaves proof flags := by
  by_cases admitted : limits.Admits leaves proof flags
  · by_cases fit : leaves + proof = flags + 1
    · exact .inr ⟨admitted, fit⟩
    · by_cases none : flags = 0
      · exact .inl ⟨_, .candidates admitted none (by omega)⟩
      · exact .inl ⟨_, .total admitted none fit⟩
  · by_cases many : limits.leaves < leaves
    · exact .inl ⟨_, .leaves many⟩
    by_cases long : limits.proof < proof
    · exact .inl ⟨_, .proof (Nat.le_of_not_lt many) long⟩
    by_cases flagged : limits.flags < flags
    · exact .inl ⟨_, .flags (Nat.le_of_not_lt many) (Nat.le_of_not_lt long) flagged⟩
    · exact absurd ⟨Nat.le_of_not_lt many, Nat.le_of_not_lt long, Nat.le_of_not_lt flagged⟩ admitted

/-! ## Reading values -/

theorem FirstRefused.mapM {values : List Value} {failure : Failure}
    (refused : FirstRefused values failure) : values.mapM Value.toDigest = .error failure := by
  obtain ⟨before, value, after, digests, rfl, denote, fails⟩ := refused
  rw [List.mapM_append, denote.mapM, List.mapM_cons, fails]
  rfl

theorem exists_denote_or_refused (values : List Value) :
    (∃ digests, Denote values digests) ∨ ∃ failure, FirstRefused values failure := by
  induction values with
  | nil => exact .inl ⟨[], .nil⟩
  | cons value values ih =>
    cases read : value.toDigest with
    | error failure => exact .inr ⟨failure, [], value, values, [], rfl, .nil, read⟩
    | ok digest =>
      obtain ⟨digests, denote⟩ | ⟨failure, before, other, after, digests, rfl, denote, fails⟩ := ih
      · exact .inl ⟨digest :: digests, .cons read denote⟩
      · exact .inr ⟨failure, value :: before, other, after, digest :: digests, rfl, .cons read denote,
          fails⟩

/-! ## Steps -/

namespace Cursors
variable {builder : HashBuilder} {supply : Supply}

theorem run_cons (flag : Bool) (flags : List Bool) (cursors : Cursors) (number : Nat) :
    cursors.run builder supply number (flag :: flags) =
      cursors.advance builder supply number flag >>= fun next =>
        next.run builder supply (number + 1) flags := rfl

theorem run_eq_error_iff {flags : List Bool} {cursors : Cursors} {number : Nat} {failure : Failure} :
    cursors.run builder supply number flags = .error failure ↔
      ∃ step flag before, flags[step]? = some flag ∧
        cursors.run builder supply number (flags.take step) = .ok before ∧
        before.advance builder supply (number + step) flag = .error failure := by
  induction flags generalizing cursors number with
  | nil => simp [run]
  | cons flag flags ih =>
    rw [run_cons]
    cases advanced : cursors.advance builder supply number flag with
    | error fault =>
      -- This step is the one that fails, and none after it is reached.
      constructor
      · intro failed
        cases failed
        exact ⟨0, flag, cursors, rfl, rfl, advanced⟩
      · rintro ⟨step, flag', before, found, reached, failed⟩
        cases step with
        | zero =>
          cases found
          cases reached
          exact advanced.symm.trans failed
        | succ step =>
          rw [List.take_succ_cons, run_cons, advanced] at reached
          cases reached
    | ok next =>
      change next.run builder supply (number + 1) flags = _ ↔ _
      rw [ih]
      constructor
      · rintro ⟨step, flag', before, found, reached, failed⟩
        refine ⟨step + 1, flag', before, found, ?_, ?_⟩
        · rw [List.take_succ_cons, run_cons, advanced]
          exact reached
        · rwa [Nat.add_right_comm, Nat.add_assoc] at failed
      · rintro ⟨step, flag', before, found, reached, failed⟩
        cases step with
        | zero =>
          cases found
          cases reached
          cases advanced.symm.trans failed
        | succ step =>
          rw [List.take_succ_cons, run_cons, advanced] at reached
          exact ⟨step, flag', before, found, reached, by rwa [Nat.add_right_comm, Nat.add_assoc]⟩

theorem stops_iff {flags : List Bool} {failure : Failure} :
    Stops builder supply flags failure ↔ start.run builder supply 0 flags = .error failure := by
  rw [run_eq_error_iff]
  simp only [Stops, Nat.zero_add]

end Cursors

/-! ## All stages -/

section
variable {builder : HashBuilder} {limits : Limits} {proof flags leaves : List Value}

theorem processMultiProof_of_check_error {error : MultiProofError}
    (checked : limits.check leaves.length proof.length flags.length = .error error) :
    processMultiProof builder limits proof flags leaves = .error (.multiProof error) := by
  rw [processMultiProof_eq]
  unfold reconstruct
  rw [checked]
  rfl

theorem Limits.Admits.within (admits : limits.Admits leaves.length proof.length flags.length) :
    limits.Within leaves proof flags :=
  (limits.check_eq_ok_iff _ _ _).mpr admits

theorem processMultiProof_without_flags (within : limits.Within leaves proof []) :
    processMultiProof builder limits proof [] leaves =
      match leaves ++ proof with
      | [sole] => sole.toDigest
      | _ => .error (.multiProof (.totalHashes leaves.length proof.length 0)) := by
  rw [processMultiProof_eq, reconstruct_without_flags within]
  match leaves ++ proof with
  | [] => rfl
  | [sole] =>
    dsimp only
    cases sole.toDigest <;> rfl
  | _ :: _ :: _ => rfl

theorem processMultiProof_of_sizeFault {error : MultiProofError}
    (fault : SizeFault limits leaves.length proof.length flags.length error) :
    processMultiProof builder limits proof flags leaves = .error (.multiProof error) := by
  cases fault with
  | leaves many => exact processMultiProof_of_check_error (by simp [Limits.check, many])
  | proof few long =>
    exact processMultiProof_of_check_error (by simp [Limits.check, Nat.not_lt.mpr few, long])
  | flags few short many =>
    exact processMultiProof_of_check_error
      (by simp [Limits.check, Nat.not_lt.mpr few, Nat.not_lt.mpr short, many])
  | candidates admits none many =>
    obtain rfl := List.length_eq_zero_iff.mp none
    rw [processMultiProof_without_flags admits.within]
    rw [← List.length_append] at many
    split
    next only => exact absurd (congrArg List.length only) many
    next => rfl
  | total admits some mismatch =>
    have nonempty : flags ≠ [] := List.ne_nil_of_length_pos (Nat.pos_of_ne_zero some)
    exact processMultiProof_of_mismatch admits.within nonempty mismatch

theorem reconstruct_of_fits (fits : limits.Fits leaves.length proof.length flags.length)
    (nonempty : flags ≠ []) :
    reconstruct builder limits proof flags leaves =
      leaves.mapM Value.toDigest >>= fun digests => proof.mapM Value.toDigest >>= fun nodes =>
        combine builder ⟨digests.toArray, nodes.toArray⟩ (flags.map Value.truth) := by
  rw [reconstruct_of_within fits.1.within nonempty, if_neg (by simpa using fits.2)]

theorem processMultiProof_of_unreadable (fits : limits.Fits leaves.length proof.length flags.length)
    (nonempty : flags ≠ []) {failure : Failure} (unreadable : Unreadable leaves proof failure) :
    processMultiProof builder limits proof flags leaves = .error failure := by
  rw [processMultiProof_eq, reconstruct_of_fits fits nonempty]
  cases unreadable with
  | leaf refused =>
    rw [refused.mapM]
    rfl
  | node digests denote refused =>
    rw [denote.mapM, refused.mapM]
    rfl

theorem combine_of_run {digests nodes : List Digest} {flags : List Bool} (nonempty : flags ≠ [])
    (fit : digests.length + nodes.length = flags.length + 1) {cursors : Cursors}
    (ran : Cursors.start.run builder ⟨digests.toArray, nodes.toArray⟩ 0 flags = .ok cursors) :
    ∃ root, cursors.hashes.back? = some root ∧
      combine builder ⟨digests.toArray, nodes.toArray⟩ flags = .ok (some root) := by
  obtain ⟨final, went, shows⟩ := (run_start_alike builder digests nodes flags).exists_of_ok ran
  obtain ⟨root, _, last⟩ := Queue.run_last nonempty went
  rw [shows.made, Array.getLast?_toList] at last
  refine ⟨root, last, ?_⟩
  unfold combine
  rw [ran]
  change cursors.conclude _ = _
  simp [Cursors.conclude, node_eq_of_run nonempty fit ran, last]

theorem exists_root_of_run {digests nodes : List Digest} {cursors : Cursors}
    (fits : limits.Fits leaves.length proof.length flags.length) (nonempty : flags ≠ [])
    (denoteLeaves : Denote leaves digests) (denoteProof : Denote proof nodes)
    (ran : Cursors.start.run builder ⟨digests.toArray, nodes.toArray⟩ 0 (flags.map Value.truth) =
      .ok cursors) :
    ∃ root, cursors.hashes.back? = some root ∧
      processMultiProof builder limits proof flags leaves = .ok root := by
  have fit : digests.length + nodes.length = (flags.map Value.truth).length + 1 := by
    rw [List.length_map, ← denoteLeaves.length_eq, ← denoteProof.length_eq]
    exact fits.2
  obtain ⟨root, last, combined⟩ := combine_of_run (by simpa using nonempty) fit ran
  refine ⟨root, last, ?_⟩
  rw [processMultiProof_eq, reconstruct_of_fit fits.1.within nonempty fits.2 denoteLeaves denoteProof,
    combined]

theorem Judged.eq {outcome : Except Failure Digest}
    (judged : Judged builder limits proof flags leaves outcome) :
    processMultiProof builder limits proof flags leaves = outcome := by
  cases judged with
  | size error fault => exact processMultiProof_of_sizeFault fault
  | sole value fits none only =>
    subst none
    rw [processMultiProof_without_flags fits.1.within, only]
  | unreadable failure fits nonempty unreadable =>
    exact processMultiProof_of_unreadable fits nonempty unreadable
  | stops digests nodes failure fits nonempty denoteLeaves denoteProof stops =>
    rw [processMultiProof_eq,
      reconstruct_of_fit fits.1.within nonempty fits.2 denoteLeaves denoteProof]
    unfold combine
    rw [Cursors.stops_iff.mp stops]
    rfl
  | root digests nodes cursors root fits nonempty denoteLeaves denoteProof ran last =>
    obtain ⟨root', last', made⟩ := exists_root_of_run fits nonempty denoteLeaves denoteProof ran
    obtain rfl := Option.some.inj (last'.symm.trans last)
    exact made

variable (builder limits proof flags leaves) in
theorem exists_judged : ∃ outcome, Judged builder limits proof flags leaves outcome := by
  -- Stage by stage: what has no fault at one of them is handed on to the next.
  obtain ⟨error, fault⟩ | fits :=
    exists_sizeFault_or_fits limits leaves.length proof.length flags.length
  · exact ⟨_, .size error fault⟩
  by_cases none : flags = []
  · have single : (leaves ++ proof).length = 1 := by
      rw [List.length_append, fits.2, none, List.length_nil]
    obtain ⟨value, only⟩ := List.length_eq_one_iff.mp single
    exact ⟨_, .sole value fits none only⟩
  obtain ⟨digests, denoteLeaves⟩ | ⟨failure, refused⟩ := exists_denote_or_refused leaves
  case inr => exact ⟨_, .unreadable failure fits none (.leaf refused)⟩
  obtain ⟨nodes, denoteProof⟩ | ⟨failure, refused⟩ := exists_denote_or_refused proof
  case inr => exact ⟨_, .unreadable failure fits none (.node digests denoteLeaves refused)⟩
  cases ran : Cursors.start.run builder ⟨digests.toArray, nodes.toArray⟩ 0 (flags.map Value.truth) with
  | error failure =>
    exact ⟨_, .stops digests nodes failure fits none denoteLeaves denoteProof
      (Cursors.stops_iff.mpr ran)⟩
  | ok cursors =>
    obtain ⟨root, last, _⟩ := exists_root_of_run fits none denoteLeaves denoteProof ran
    exact ⟨_, .root digests nodes cursors root fits none denoteLeaves denoteProof ran last⟩

theorem processMultiProof_eq_of_admits {other : Limits}
    (admits : limits.Admits leaves.length proof.length flags.length)
    (admits' : other.Admits leaves.length proof.length flags.length) :
    processMultiProof builder limits proof flags leaves =
      processMultiProof builder other proof flags leaves := by
  rw [processMultiProof_eq, processMultiProof_eq]
  unfold reconstruct
  rw [admits.within, admits'.within]

end

/-- The outcome of a multiproof is what the first stage with something to say about it says. A fault of
the sizes is the same for all values, flags and builders, and the fault of a value is the same for all
flags and builders. Limits only bound the sizes. -/
theorem processMultiProof_judged (builder : HashBuilder) (limits : Limits)
    (proof flags leaves : List Value) :
    (∀ outcome, processMultiProof builder limits proof flags leaves = outcome ↔
      Judged builder limits proof flags leaves outcome) ∧
    (∀ error, SizeFault limits leaves.length proof.length flags.length error →
      ∀ builder' proof' flags' leaves', proof'.length = proof.length →
        flags'.length = flags.length → leaves'.length = leaves.length →
        processMultiProof builder' limits proof' flags' leaves' = .error (.multiProof error)) ∧
    (∀ failure, limits.Fits leaves.length proof.length flags.length → flags ≠ [] →
      Unreadable leaves proof failure → ∀ builder' flags', flags'.length = flags.length →
        processMultiProof builder' limits proof flags' leaves = .error failure) ∧
    ∀ limits', limits.Admits leaves.length proof.length flags.length →
      limits'.Admits leaves.length proof.length flags.length →
      processMultiProof builder limits proof flags leaves =
        processMultiProof builder limits' proof flags leaves := by
  refine ⟨fun outcome => ⟨?_, Judged.eq⟩, ?_, ?_, fun limits' => processMultiProof_eq_of_admits⟩
  · rintro rfl
    obtain ⟨outcome, judged⟩ := exists_judged builder limits proof flags leaves
    exact judged.eq ▸ judged
  · intro error fault builder' proof' flags' leaves' nodeCount flagCount leafCount
    rw [← nodeCount, ← flagCount, ← leafCount] at fault
    exact processMultiProof_of_sizeFault fault
  · intro failure fits nonempty unreadable builder' flags' flagCount
    have nonempty' : flags' ≠ [] := by
      rintro rfl
      exact nonempty (List.length_eq_zero_iff.mp flagCount.symm)
    rw [← flagCount] at fits
    exact processMultiProof_of_unreadable fits nonempty' unreadable

/-- A leaf and a node that are no digests, in steps for which one leaf more is wanted: the leaf is told.
With one flag less it is the sizes. -/
theorem processMultiProof_judged_three_faults :
    processMultiProof HashName.sha256.builder ⟨3, 3, 3⟩ [.text ""] [.boolean true, .integer 7]
      [.digest .zero, .null] = .error (.notDigestLike .null) ∧
    processMultiProof HashName.sha256.builder ⟨3, 3, 3⟩ [.text ""] [.boolean true]
      [.digest .zero, .null] = .error (.multiProof (.totalHashes 2 1 1)) := by
  have refused : FirstRefused [.digest .zero, .null] (.notDigestLike .null) :=
    ⟨[.digest .zero], .null, [], [.zero], rfl, .cons rfl .nil, rfl⟩
  have fits : Limits.Fits ⟨3, 3, 3⟩ 2 1 2 := ⟨⟨by decide, by decide, by decide⟩, rfl⟩
  have fault : SizeFault ⟨3, 3, 3⟩ 2 1 1 (.totalHashes 2 1 1) :=
    .total ⟨by decide, by decide, by decide⟩ (by decide) (by decide)
  constructor
  · exact ((processMultiProof_judged HashName.sha256.builder ⟨3, 3, 3⟩ [.text ""]
      [.boolean true, .integer 7] [.digest .zero, .null]).1 _).mpr
        (.unreadable _ fits (by simp) (.leaf refused))
  · exact (processMultiProof_judged HashName.sha256.builder ⟨3, 3, 3⟩ [.null] [.boolean false]
      [.text "", .text ""]).2.1 _ fault _ _ _ _ rfl rfl rfl

end Inclusion
