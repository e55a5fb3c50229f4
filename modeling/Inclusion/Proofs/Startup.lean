import Inclusion.Proofs.Invocation

/-! How far settings that can be built carry a run. The hash function that they name can always be had,
but their log level is any text at all: where no listener knows it, a run fails before it has looked at
its file, unless the command line asks for another level. -/

set_option autoImplicit false

namespace Inclusion.CommandLine

theorem ofName_of_unknown {name : String} (unknown : Listener.namedThresholds.lookup name = none) :
    Listener.ofName name = .error .unknownLevel := by
  simp [Listener.ofName, unknown]

theorem toHashName_text (name : HashName) : Value.toHashName (.text name.text) = .ok name := by
  have known : HashName.ofAnyCase? name.text = some name := by
    rw [HashName.ofAnyCase?, HashName.lowerCase_text, HashName.ofText_text]
  simp only [Value.toHashName, known]

section
variable (line : Line) {environment : Environment} {settings : Settings}
  (built : Settings.build (.ofEnvironment environment) = .ok settings)
include built

theorem exists_task_iff :
    (∃ task, start line.arguments environment = .ok task) ↔
      (Listener.namedThresholds.lookup (line.options.levelName settings)).isSome = true := by
  rw [start_of_built line built]
  constructor
  · rintro ⟨task, started⟩
    cases named : Listener.namedThresholds.lookup (line.options.levelName settings) with
    | some threshold => rfl
    | none =>
      rw [ofName_of_unknown named] at started
      cases started
  · intro known
    obtain ⟨listener, made⟩ := exists_listener known
    rw [made]
    exact ⟨_, rfl⟩

theorem fields_of_start {task : Task} (started : start line.arguments environment = .ok task) :
    task.command = line.command ∧ task.path = line.path ∧
      task.hash = line.options.hash.getD settings.defaultHash := by
  rw [start_of_built line built] at started
  cases made : Listener.ofName (line.options.levelName settings) with
  | error failure =>
    rw [made] at started
    cases started
  | ok listener =>
    rw [made] at started
    cases started
    exact ⟨rfl, rfl, rfl⟩

theorem run_of_unknown (files : String → FileState)
    (unknown : Listener.namedThresholds.lookup (line.options.levelName settings) = none) :
    run line.arguments environment files = .escaped .unknownLevel := by
  unfold run
  rw [start_of_built line built, ofName_of_unknown unknown]

/-- A run gets as far as its file exactly where its command line asks for a level or listeners know that
of the settings, and the name of its hash function is one that a builder is made for. Where neither
holds, the failure escapes before any file is looked at. -/
theorem starts_iff_level_known :
    ((∃ task, start line.arguments environment = .ok task) ↔
      line.options.level.isSome = true ∨
        (Listener.namedThresholds.lookup settings.logLevel).isSome = true) ∧
    (∃ hash, Value.toHashName (.text (line.options.hash.getD settings.defaultHash).text) = .ok hash ∧
      ∀ task, start line.arguments environment = .ok task →
        task.command = line.command ∧ task.path = line.path ∧ task.hash = hash) ∧
    (line.options.level = none → Listener.namedThresholds.lookup settings.logLevel = none →
      ∀ files, run line.arguments environment files = .escaped .unknownLevel) := by
  refine ⟨?_, ⟨_, toHashName_text _, fun task => fields_of_start line built⟩, ?_⟩
  · rw [exists_task_iff line built, isSome_levelName_iff]
  · intro absent unknown files
    apply run_of_unknown line built files
    simpa [Options.levelName, absent] using unknown

end

def withUnknownLevel : Environment := [("MERKLE_LOG_LEVEL", "bogus")]

theorem build_withUnknownLevel :
    Settings.build (.ofEnvironment withUnknownLevel) =
      .ok ⟨⟨65536, 65536, 131072⟩, .keccak256, "BOGUS"⟩ := by
  decide +kernel

/-- In that environment a run starts where the command line has a level of its own. -/
theorem starts_iff_level_known_with_option :
    Settings.build (.ofEnvironment withUnknownLevel) =
        .ok ⟨⟨65536, 65536, 131072⟩, .keccak256, "BOGUS"⟩ ∧
      ∃ task, start ["--log-level", "Info", "verify", "proof.json"] withUnknownLevel = .ok task := by
  let line : Line := {
    choices := [.level "Info" false (by decide +kernel)]
    command := .verify
    marked := false
    path := "proof.json"
    plain := fun _ => by decide
    clean := by decide }
  exact ⟨build_withUnknownLevel,
    (starts_iff_level_known line build_withUnknownLevel).1.mpr (.inl rfl)⟩

/-- Settings that can be built do not make every run start: in that environment a plain command line
comes to nothing, whatever its file holds. -/
theorem built_settings_fail_to_start :
    Settings.build (.ofEnvironment withUnknownLevel) =
        .ok ⟨⟨65536, 65536, 131072⟩, .keccak256, "BOGUS"⟩ ∧
      start ["verify", "proof.json"] withUnknownLevel = .error (.escaped .unknownLevel) ∧
      ∀ files, run ["verify", "proof.json"] withUnknownLevel files = .escaped .unknownLevel := by
  let line : Line := {
    choices := []
    command := .verify
    marked := false
    path := "proof.json"
    plain := fun _ => by decide
    clean := by decide }
  have unknown : Listener.namedThresholds.lookup
      (line.options.levelName ⟨⟨65536, 65536, 131072⟩, .keccak256, "BOGUS"⟩) = none := by
    decide
  refine ⟨build_withUnknownLevel, ?_,
    fun files => run_of_unknown line build_withUnknownLevel files unknown⟩
  have started := start_of_built line build_withUnknownLevel
  rwa [ofName_of_unknown unknown] at started

end Inclusion.CommandLine
