import Inclusion.Proofs.Admission

/-! Which settings an action goes by. Those of a session are built by the first read that finds the
environment in order and stay until they are forgotten, whatever the environment becomes meanwhile. A
read that fails leaves nothing behind, and what is not a read has no part in this. -/

set_option autoImplicit false

namespace Inclusion

/-! ## Reads -/

namespace Session

theorem environment_settings (session : Session) :
    session.settings.2.environment = session.environment := by
  unfold Session.settings
  split
  · rfl
  · split <;> rfl

theorem kept_settings_iff {session : Session} {settings : Settings} :
    session.settings.2.kept = some settings ↔ session.kept = some settings ∨
      (session.kept = none ∧ Settings.build (.ofEnvironment session.environment) = .ok settings) := by
  cases kept : session.kept with
  | some found => simp [settings_of_kept kept, kept]
  | none =>
    cases built : Settings.build (.ofEnvironment session.environment) with
    | ok found => simp [settings_of_built kept built]
    | error complaints => simp [settings_of_refused kept built, kept]

/-- Answer by the settings of the session, or else with what is wrong with them. -/
def answer {α : Type} (session : Session) (respond : Settings → Outcome α) : Outcome α × Session :=
  (match session.settings.1 with
    | .ok settings => respond settings
    | .error failure => .quiet (.error failure),
  session.settings.2)

variable {α : Type} {session : Session} (respond : Settings → Outcome α)

theorem answer_of_found {settings : Settings} (found : session.settings.1 = .ok settings) :
    session.answer respond = (respond settings, session.settings.2) := by
  simp [answer, found]

theorem answer_of_refused {failure : Failure} (refused : session.settings.1 = .error failure) :
    session.answer respond = (.quiet (.error failure), session.settings.2) := by
  simp [answer, refused]

theorem answer_map {β : Type} (transform : α → β) :
    ((session.answer respond).1.map transform, (session.answer respond).2) =
      session.answer fun settings => (respond settings).map transform := by
  unfold answer
  cases session.settings.1 <;> rfl

end Session

namespace Verifier

def withSettings (verifier : Verifier) (settings : Settings) : Verifier :=
  { verifier with settings := some settings }

variable {verifier : Verifier} (own : verifier.settings = none) (session : Session)
include own

theorem limits_of_none :
    verifier.limits session = (session.settings.1.map Settings.limits, session.settings.2) := by
  unfold limits
  rw [own]

theorem processMultiProof_of_none (proof flags leaves : List Value) :
    (Outcome.quiet (verifier.processMultiProof proof flags leaves session).1,
        (verifier.processMultiProof proof flags leaves session).2) =
      session.answer fun settings =>
        .quiet ((verifier.withSettings settings).processMultiProof proof flags leaves session).1 := by
  rw [processMultiProof_limits, limits_of_none own]
  unfold Session.answer
  cases session.settings.1 <;> rfl

theorem verifyMultiProof_of_none (proof flags : List Value) (root : Value) (leaves : List Value) :
    verifier.verifyMultiProof proof flags root leaves session = session.answer fun settings =>
      ((verifier.withSettings settings).verifyMultiProof proof flags root leaves session).1 := by
  unfold Verifier.verifyMultiProof Session.answer
  rw [limits_of_none own]
  cases session.settings.1 <;> rfl

end Verifier

namespace Gate

def withSettings (gate : Gate) (settings : Settings) : Gate :=
  { gate with verifier := gate.verifier.withSettings settings }

theorem outcomes_of_judged {gate other : Gate} {leaves proof flags : List Value}
    {session session' after : Session}
    (same : gate.judged leaves proof flags session =
      ((other.judged leaves proof flags session').1, after)) :
    gate.areAllowed leaves proof flags session =
        ((other.areAllowed leaves proof flags session').1, after) ∧
      gate.requireAllAllowed leaves proof flags session =
        ((other.requireAllAllowed leaves proof flags session').1, after) := by
  have results := congrArg (fun judged => judged.1.result) same
  rcases other.judged_cases leaves proof flags session' with
    ⟨allowed, made⟩ | ⟨error, made⟩ | ⟨failure, different, made⟩
  · rw [other.areAllowed_of_ok made, other.requireAllAllowed_of_ok made,
      gate.areAllowed_of_ok (results.trans made), gate.requireAllAllowed_of_ok (results.trans made),
      same]
    exact ⟨rfl, rfl⟩
  · rw [other.areAllowed_of_multiProof made, other.requireAllAllowed_of_multiProof made,
      gate.areAllowed_of_multiProof (results.trans made),
      gate.requireAllAllowed_of_multiProof (results.trans made), same]
    exact ⟨rfl, rfl⟩
  · obtain ⟨asked, demanded⟩ := other.outcomes_of_failure different made
    obtain ⟨asked', demanded'⟩ := gate.outcomes_of_failure different (results.trans made)
    rw [asked, demanded, asked', demanded', same]
    exact ⟨rfl, rfl⟩

theorem outcomes_of_none {gate : Gate} (own : gate.verifier.settings = none)
    (leaves proof flags : List Value) (session : Session) :
    (gate.areAllowed leaves proof flags session = session.answer fun settings =>
        ((gate.withSettings settings).areAllowed leaves proof flags session).1) ∧
      gate.requireAllAllowed leaves proof flags session = session.answer fun settings =>
        ((gate.withSettings settings).requireAllAllowed leaves proof flags session).1 := by
  have judged : gate.judged leaves proof flags session = session.answer fun settings =>
      ((gate.withSettings settings).judged leaves proof flags session).1 :=
    Verifier.verifyMultiProof_of_none own session proof flags _ leaves
  rcases session.settings_cases with ⟨settings, found⟩ | ⟨complaints, refused⟩
  · simp only [Session.answer_of_found _ found] at judged ⊢
    exact outcomes_of_judged judged
  · simp only [Session.answer_of_refused _ refused] at judged ⊢
    have made : (gate.judged leaves proof flags session).1.result = .error (.invalid complaints) := by
      rw [judged]
      rfl
    have both := gate.outcomes_of_failure (by simp) made
    rwa [judged] at both

theorem outcomes_of_some {gate : Gate} (own : gate.verifier.settings.isNone = false)
    (leaves proof flags : List Value) (session session' : Session) :
    gate.areAllowed leaves proof flags session =
        ((gate.areAllowed leaves proof flags session').1, session) ∧
      gate.requireAllAllowed leaves proof flags session =
        ((gate.requireAllAllowed leaves proof flags session').1, session) := by
  obtain ⟨root, builder, _ | settings⟩ := gate
  · cases own
  · have same : Gate.judged ⟨root, builder, some settings⟩ leaves proof flags session =
        ((Gate.judged ⟨root, builder, some settings⟩ leaves proof flags session').1, session) := rfl
    exact outcomes_of_judged same

end Gate

namespace Action

def given (settings : Settings) : Action → Action
  | .processBatch verifier proof flags leaves =>
    .processBatch (verifier.withSettings settings) proof flags leaves
  | .verifyBatch verifier proof flags root leaves =>
    .verifyBatch (verifier.withSettings settings) proof flags root leaves
  | .processBundle multiProof builder leaves =>
    .processBatch ⟨builder, some settings⟩ multiProof.proofValues multiProof.flagValues leaves
  | .verifyBundle multiProof builder root leaves =>
    .verifyBatch ⟨builder, some settings⟩ multiProof.proofValues multiProof.flagValues root leaves
  | .ask gate check => .ask (gate.withSettings settings) check
  | .demand gate check => .demand (gate.withSettings settings) check
  | action => action

def under (settings : Settings) (session : Session) : Action → Outcome Answer
  | .readSettings => .quiet (.ok (.settings settings))
  | action => ((action.given settings).perform session).1

section
variable (verifier : Verifier) (own : verifier.settings = none) (session : Session)
include own

theorem perform_processBatch (proof flags leaves : List Value) :
    (processBatch verifier proof flags leaves).perform session = session.answer fun settings =>
      (processBatch verifier proof flags leaves).under settings session := by
  have processed := verifier.processMultiProof_of_none own session proof flags leaves
  exact (congrArg (fun both => (both.1.map Answer.digest, both.2)) processed).trans
    (Session.answer_map _ _)

theorem perform_verifyBatch (proof flags : List Value) (root : Value) (leaves : List Value) :
    (verifyBatch verifier proof flags root leaves).perform session = session.answer fun settings =>
      (verifyBatch verifier proof flags root leaves).under settings session := by
  have verified := verifier.verifyMultiProof_of_none own session proof flags root leaves
  exact (congrArg (fun both => (both.1.map Answer.verdict, both.2)) verified).trans
    (Session.answer_map _ _)

end

/-- A read goes by the settings of the session, and looks at nothing else before it has them. -/
theorem perform_of_reads {action : Action} (reads : action.reads = true) (session : Session) :
    action.perform session = session.answer fun settings => action.under settings session := by
  cases action with
  | readSettings =>
    simp only [perform, Session.answer]
    cases session.settings.1 <;> rfl
  | processBatch verifier proof flags leaves =>
    have own : verifier.settings = none := Option.isNone_iff_eq_none.mp reads
    exact perform_processBatch verifier own session proof flags leaves
  | verifyBatch verifier proof flags root leaves =>
    have own : verifier.settings = none := Option.isNone_iff_eq_none.mp reads
    exact perform_verifyBatch verifier own session proof flags root leaves
  -- A multiproof of its own is put as its values are, to a verifier without settings.
  | processBundle multiProof builder leaves =>
    exact perform_processBatch ⟨builder, none⟩ rfl session _ _ leaves
  | verifyBundle multiProof builder root leaves =>
    exact perform_verifyBatch ⟨builder, none⟩ rfl session _ _ root leaves
  | ask gate check =>
    cases check with
    | single leaf proof => cases reads
    | batch leaves proof flags =>
      have own : gate.verifier.settings = none := Option.isNone_iff_eq_none.mp reads
      obtain ⟨asked, _⟩ := Gate.outcomes_of_none own leaves proof flags session
      exact (congrArg (fun both => (both.1.map Answer.verdict, both.2)) asked).trans
        (Session.answer_map _ _)
  | demand gate check =>
    cases check with
    | single leaf proof => cases reads
    | batch leaves proof flags =>
      have own : gate.verifier.settings = none := Option.isNone_iff_eq_none.mp reads
      obtain ⟨_, demanded⟩ := Gate.outcomes_of_none own leaves proof flags session
      exact (congrArg (fun both => (both.1.map fun _ => Answer.done, both.2)) demanded).trans
        (Session.answer_map _ _)
  | _ => cases reads

/-! ## Other actions -/

/-- What is not a read is answered without the settings that are kept, and keeps them as they are. -/
theorem perform_of_not_reads {action : Action} (aside : action.reads = false)
    (keeps : action ≠ .forget) (environment : Environment) (kept : Option Settings) :
    action.perform ⟨environment, kept⟩ =
      ((action.perform ⟨environment, none⟩).1, ⟨action.affect environment, kept⟩) := by
  cases action with
  | forget => exact absurd rfl keeps
  | processBatch verifier proof flags leaves =>
    obtain ⟨builder, _ | settings⟩ := verifier
    · cases aside
    · rfl
  | verifyBatch verifier proof flags root leaves =>
    obtain ⟨builder, _ | settings⟩ := verifier
    · cases aside
    · rfl
  | ask gate check =>
    cases check with
    | single leaf proof => rfl
    | batch leaves proof flags =>
      obtain ⟨asked, _⟩ :=
        Gate.outcomes_of_some aside leaves proof flags ⟨environment, kept⟩ ⟨environment, none⟩
      exact congrArg (fun both => (both.1.map Answer.verdict, both.2)) asked
  | demand gate check =>
    cases check with
    | single leaf proof => rfl
    | batch leaves proof flags =>
      obtain ⟨_, demanded⟩ :=
        Gate.outcomes_of_some aside leaves proof flags ⟨environment, kept⟩ ⟨environment, none⟩
      exact congrArg (fun both => (both.1.map fun _ => Answer.done, both.2)) demanded
  | readSettings => cases aside
  | processBundle multiProof builder leaves => cases aside
  | verifyBundle multiProof builder root leaves => cases aside
  | _ => rfl

/-! ## What an action leaves behind -/

theorem affect_of_reads {action : Action} (reads : action.reads = true) (environment : Environment) :
    action.affect environment = environment := by
  cases action with
  | assign name text => cases reads
  | remove name => cases reads
  | _ => rfl

theorem environment_perform (action : Action) (session : Session) :
    (action.perform session).2.environment = action.affect session.environment := by
  cases reads : action.reads with
  | true =>
    rw [perform_of_reads reads, affect_of_reads reads]
    exact session.environment_settings
  | false =>
    by_cases keeps : action = .forget
    · subst keeps
      rfl
    · rw [show session = ⟨session.environment, session.kept⟩ from rfl,
        perform_of_not_reads reads keeps]

theorem kept_perform_iff {action : Action} {session : Session} {settings : Settings} :
    (action.perform session).2.kept = some settings ↔
      (action ≠ .forget ∧ session.kept = some settings) ∨
        (action.reads = true ∧ session.kept = none ∧
          Settings.build (.ofEnvironment session.environment) = .ok settings) := by
  cases reads : action.reads with
  | true =>
    have keeps : action ≠ .forget := by
      rintro rfl
      cases reads
    rw [perform_of_reads reads]
    change session.settings.2.kept = some settings ↔ _
    rw [Session.kept_settings_iff]
    simp [keeps]
  | false =>
    by_cases keeps : action = .forget
    · subst keeps
      simp [perform, Session.forget]
    · rw [show session = ⟨session.environment, session.kept⟩ from rfl,
        perform_of_not_reads reads keeps]
      simp [keeps]

end Action

/-! ## Histories -/

theorem Environment.after_concat (environment : Environment) (history : List Action)
    (action : Action) :
    environment.after (history ++ [action]) = action.affect (environment.after history) := by
  simp [after]

/-- A read that found the environment in order, and nothing has been forgotten since. -/
structure Found (environment : Environment) (before : List Action) (action : Action)
    (after : List Action) (settings : Settings) : Prop where
  reads : action.reads = true
  built : Settings.build (.ofEnvironment (environment.after before)) = .ok settings
  kept : .forget ∉ after

/-- The settings that the first of such reads found. -/
def InForce (environment : Environment) (history : List Action) (settings : Settings) : Prop :=
  ∃ before action after, history = before ++ action :: after ∧
    Found environment before action after settings ∧
    ∀ earlier other between settings', before = earlier ++ other :: between →
      ¬ Found environment earlier other between settings'

section
variable {environment : Environment} {history : List Action} {action : Action} {settings : Settings}

theorem Action.ne_forget_of_reads (reads : action.reads = true) : action ≠ .forget := by
  rintro rfl
  cases reads

theorem exists_inForce {before after : List Action} (split : history = before ++ action :: after)
    (found : Found environment before action after settings) :
    ∃ settings, InForce environment history settings := by
  -- An earlier such read has fewer actions before it, and one without an earlier one is the first.
  induction length : before.length using Nat.strong_induction_on
    generalizing before action after settings with
  | h count ih =>
  by_cases sooner : ∃ earlier other between settings', before = earlier ++ other :: between ∧
      Found environment earlier other between settings'
  · obtain ⟨earlier, other, between, settings', rfl, found'⟩ := sooner
    have kept : .forget ∉ between ++ action :: after := by
      simp [found'.kept, found.kept, (Action.ne_forget_of_reads found.reads).symm]
    have shorter : earlier.length < count := by
      simp only [← length, List.length_append, List.length_cons]
      omega
    have split' : history = earlier ++ other :: (between ++ action :: after) := by simp [split]
    exact ih _ shorter split' ⟨found'.reads, found'.built, kept⟩ rfl
  · refine ⟨settings, before, action, after, split, found, ?_⟩
    intro earlier other between settings' split' found'
    exact sooner ⟨earlier, other, between, settings', split', found'⟩

theorem inForce_concat_iff :
    InForce environment (history ++ [action]) settings ↔
      (action ≠ .forget ∧ InForce environment history settings) ∨
        (action.reads = true ∧ (∀ settings, ¬ InForce environment history settings) ∧
          Settings.build (.ofEnvironment (environment.after history)) = .ok settings) := by
  constructor
  · rintro ⟨before, first, after, split, found, earliest⟩
    -- The last action is the first read itself, or it comes after that.
    rcases List.eq_nil_or_concat' after with rfl | ⟨after, last, rfl⟩
    · obtain ⟨rfl, same⟩ := List.append_inj' split rfl
      cases same
      refine .inr ⟨found.reads, ?_, found.built⟩
      rintro settings' ⟨earlier, other, between, split', found', _⟩
      exact earliest earlier other between settings' split' found'
    · rw [← List.cons_append, ← List.append_assoc] at split
      obtain ⟨rfl, same⟩ := List.append_inj' split rfl
      cases same
      have kept := found.kept
      simp only [List.mem_append, List.mem_singleton, not_or] at kept
      have found' : Found environment before first after settings :=
        ⟨found.reads, found.built, kept.1⟩
      exact .inl ⟨Ne.symm kept.2, before, first, after, rfl, found', earliest⟩
  · rintro (⟨keeps, before, first, after, rfl, found, earliest⟩ | ⟨reads, without, built⟩)
    · have kept : .forget ∉ after ++ [action] := by simp [found.kept, keeps.symm]
      exact ⟨before, first, after ++ [action], by simp, ⟨found.reads, found.built, kept⟩, earliest⟩
    · refine ⟨history, action, [], rfl, ⟨reads, built, List.not_mem_nil⟩, ?_⟩
      intro earlier other between settings' split found
      obtain ⟨settings, inForce⟩ := exists_inForce split found
      exact without settings inForce

end

/-- What a session has after a history: the environment as it was changed, and the settings in
force. -/
theorem Script.session_run (environment : Environment) (history : List Action) :
    (run history (.start environment)).2.environment = environment.after history ∧
      ∀ settings, (run history (.start environment)).2.kept = some settings ↔
        InForce environment history settings := by
  induction history using List.reverseRecOn with
  | nil =>
    refine ⟨rfl, fun settings => ⟨nofun, ?_⟩⟩
    rintro ⟨before, action, after, split, _⟩
    simp at split
  | append_singleton history action ih =>
    obtain ⟨environments, kept⟩ := ih
    rw [run_concat]
    constructor
    · rw [Action.environment_perform, environments, Environment.after_concat]
    · intro settings
      rw [Action.kept_perform_iff, inForce_concat_iff, kept, environments,
        Option.eq_none_iff_forall_ne_some]
      simp only [ne_eq, kept]

theorem not_inForce_append {environment : Environment} {history repairs : List Action}
    (without : ∀ settings, ¬ InForce environment history settings)
    (aside : ∀ step ∈ repairs, step.reads = false) (settings : Settings) :
    ¬ InForce environment (history ++ repairs) settings := by
  induction repairs using List.reverseRecOn generalizing settings with
  | nil => simpa using without settings
  | append_singleton repairs step ih =>
    rw [← List.append_assoc, inForce_concat_iff]
    rintro (⟨_, inForce⟩ | ⟨reads, _⟩)
    · exact ih (fun other member => aside other (List.mem_append_left _ member)) settings inForce
    · simp [aside step (by simp)] at reads

structure ReadsInForce (environment : Environment) (history : List Action) (session : Session) :
    Prop where
  present : session.environment = environment.after history
  kept (settings : Settings) : session.kept = some settings ↔ InForce environment history settings
  reads (action : Action) (settings : Settings) : action.reads = true →
    InForce environment history settings →
    action.perform session = (action.under settings session, session)
  builds (action : Action) (settings : Settings) : action.reads = true →
    (∀ settings, ¬ InForce environment history settings) →
    Settings.build (.ofEnvironment (environment.after history)) = .ok settings →
    action.perform session = (action.under settings session, { session with kept := some settings })
  fails (action : Action) (complaints : List Complaint) : action.reads = true →
    (∀ settings, ¬ InForce environment history settings) →
    Settings.build (.ofEnvironment (environment.after history)) = .error complaints →
    action.perform session = (.quiet (.error (.invalid complaints)), session) ∧ session.kept = none

theorem readsInForce (environment : Environment) (history : List Action) :
    ReadsInForce environment history (Script.run history (.start environment)).2 := by
  obtain ⟨same, kept⟩ := Script.session_run environment history
  have empty (without : ∀ settings, ¬ InForce environment history settings) :
      (Script.run history (.start environment)).2.kept = none :=
    Option.eq_none_iff_forall_ne_some.mpr fun settings found =>
      without settings ((kept settings).mp found)
  constructor
  case present => exact same
  case kept => exact kept
  case reads =>
    intro action settings reads inForce
    have found := Session.settings_of_kept ((kept settings).mpr inForce)
    rw [Action.perform_of_reads reads, Session.answer_of_found _ (congrArg Prod.fst found), found]
  case builds =>
    intro action settings reads without built
    rw [← same] at built
    have found := Session.settings_of_built (empty without) built
    rw [Action.perform_of_reads reads, Session.answer_of_found _ (congrArg Prod.fst found), found]
  case fails =>
    intro action complaints reads without broken
    rw [← same] at broken
    have refused := Session.settings_of_refused (empty without) broken
    rw [Action.perform_of_reads reads, Session.answer_of_refused _ (congrArg Prod.fst refused),
      refused]
    exact ⟨rfl, empty without⟩

/-- A read goes by the settings that the first one to find the environment in order has found since
the settings were last forgotten. Where there has been none, it builds them from the environment as
it is, and fails for what is wrong there before it looks at anything else; once that is repaired, the
next read finds them. All other actions neither see the settings that are kept nor change them. -/
theorem settings_in_force (environment : Environment) (history : List Action) :
    ReadsInForce environment history (Script.run history (.start environment)).2 ∧
    (∀ (action later : Action) complaints repairs settings,
      (∀ settings, ¬ InForce environment history settings) →
      Settings.build (.ofEnvironment (environment.after history)) = .error complaints →
      (∀ step ∈ repairs, step.reads = false) →
      Settings.build (.ofEnvironment (environment.after (history ++ action :: repairs))) =
        .ok settings →
      later.reads = true →
      let session := (Script.run (history ++ action :: repairs) (.start environment)).2
      later.perform session =
        (later.under settings session, { session with kept := some settings })) ∧
    (∀ action : Action, action.reads = false → action ≠ .forget → ∀ environment kept,
      action.perform ⟨environment, kept⟩ =
        ((action.perform ⟨environment, none⟩).1, ⟨action.affect environment, kept⟩)) ∧
    ∀ (action : Action) settings, action ≠ .readSettings → (action.given settings).reads = false := by
  refine ⟨readsInForce environment history, ?_, ?_, ?_⟩
  · intro action later complaints repairs settings without broken aside built reads session
    have none : ∀ settings, ¬ InForce environment (history ++ [action]) settings := by
      intro settings inForce
      rcases inForce_concat_iff.mp inForce with ⟨_, inForce⟩ | ⟨_, _, built⟩
      · exact without settings inForce
      · cases broken.symm.trans built
    have still := not_inForce_append none aside
    rw [List.append_assoc, List.singleton_append] at still
    have after := readsInForce environment (history ++ action :: repairs)
    exact after.builds later settings reads still built
  · exact fun action => Action.perform_of_not_reads
  · intro action settings other
    cases action with
    | readSettings => exact absurd rfl other
    | ask gate check => cases check <;> rfl
    | demand gate check => cases check <;> rfl
    | _ => rfl

/-- A limit of nothing is refused and one of a single leaf found, which then holds for a batch of two
although the variable has been set to two by that time. Once forgotten, the two are found. -/
theorem settings_in_force_until_forgotten :
    let environment : Environment := [("MERKLE_MAX_LEAVES", "0")]
    let history : List Action := [.readSettings, .assign "MERKLE_MAX_LEAVES" "1", .readSettings,
      .assign "MERKLE_MAX_LEAVES" "2"]
    let batch : Action := .verifyBatch ⟨HashName.keccak256.builder, none⟩ [] [] .null [.null, .null]
    let session := (Script.run history (.start environment)).2
    let cleared := (Script.run (history ++ [.forget]) (.start environment)).2
    (Action.readSettings.perform (.start environment)).1.result =
        .error (.invalid [.about "MAX_LEAVES" .notPositive]) ∧
      (batch.perform session).1 =
        ⟨[.rejected (.tooLarge .leaves 2 1) 2 0 0], .error (.multiProof (.tooLarge .leaves 2 1))⟩ ∧
      (batch.perform cleared).1 = .quiet (.ok (.verdict false)) := by
  intro environment history batch session cleared
  have broken : Settings.build (.ofEnvironment environment) =
      .error [.about "MAX_LEAVES" .notPositive] := by
    decide +kernel +revert
  have one : session.kept = some ⟨⟨1, 65536, 131072⟩, .keccak256, "INFO"⟩ := by
    decide +kernel +revert
  have empty : cleared.kept = none := by
    decide +kernel +revert
  have two : Settings.build (.ofEnvironment (environment.after (history ++ [.forget]))) =
      .ok ⟨⟨2, 65536, 131072⟩, .keccak256, "INFO"⟩ := by
    decide +kernel +revert
  have exceeds (session : Session) : batch.under ⟨⟨1, 65536, 131072⟩, .keccak256, "INFO"⟩ session =
      ⟨[.rejected (.tooLarge .leaves 2 1) 2 0 0], .error (.multiProof (.tooLarge .leaves 2 1))⟩ := rfl
  have fit (session : Session) : batch.under ⟨⟨2, 65536, 131072⟩, .keccak256, "INFO"⟩ session =
      .quiet (.ok (.verdict false)) := rfl
  obtain ⟨⟨_, keptAtStart, _, _, failsAtStart⟩, _⟩ := settings_in_force environment []
  obtain ⟨⟨_, kept, reads, _, _⟩, _⟩ := settings_in_force environment history
  obtain ⟨⟨_, keptWhenCleared, _, builds, _⟩, _⟩ :=
    settings_in_force environment (history ++ [.forget])
  refine ⟨?_, ?_, ?_⟩
  · have without (settings : Settings) (inForce : InForce environment [] settings) : False := by
      cases (keptAtStart settings).mpr inForce
    exact congrArg (fun both => both.1.result) (failsAtStart .readSettings _ rfl without broken).1
  · exact (congrArg Prod.fst (reads batch _ rfl ((kept _).mp one))).trans (exceeds session)
  · have without (settings : Settings) (force : InForce environment (history ++ [.forget]) settings) :
        False := by
      cases empty.symm.trans ((keptWhenCleared settings).mpr force)
    exact (congrArg Prod.fst (builds batch _ rfl without two)).trans (fit cleared)

end Inclusion
