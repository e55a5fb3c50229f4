import Inclusion.Proofs.Capitals
import Inclusion.Proofs.Meaning
import Inclusion.Proofs.Script
import Mathlib.Data.List.Pairwise

/-! Settings and the values that they are made of. For each field one value is chosen by where it comes
from and not by what it is: the argument of that name, or else the variable, or else the default. What
is chosen is then judged, and all that is wrong with it is reported. What a field has taken can be given
again, so that settings can be made once more from their own fields. -/

set_option autoImplicit false

namespace Inclusion

/-! ## Names in one spelling -/

def OneSpelling {α : Type} (entries : List (String × α)) : Prop :=
  (entries.map Prod.fst).Pairwise fun first second => sameName first second = false

theorem sameName_iff {first second : String} :
    sameName first second = true ↔ Text.lowerCase first = Text.lowerCase second :=
  beq_iff_eq

theorem OneSpelling.eq_of_sameName {α : Type} {entries : List (String × α)} (one : OneSpelling entries)
    {name : String} {first second : String × α} (among : first ∈ entries) (alsoAmong : second ∈ entries)
    (named : sameName first.1 name = true) (alsoNamed : sameName second.1 name = true) :
    first = second := by
  have symmetric : Std.Symm fun first second : String × α => sameName first.1 second.1 = false :=
    ⟨fun first second apart => by
      rw [← Bool.not_eq_true, sameName_iff] at apart ⊢
      exact fun same => apart same.symm⟩
  by_contra different
  have apart := (List.pairwise_map.mp one).forall among alsoAmong different
  rw [← Bool.not_eq_true, sameName_iff] at apart
  exact apart ((sameName_iff.mp named).trans (sameName_iff.mp alsoNamed).symm)

theorem find?_eq_some_iff_of_unique {α : Type} {items : List α} {wanted : α → Bool}
    (unique : ∀ first ∈ items, ∀ second ∈ items, wanted first = true → wanted second = true →
      first = second) {item : α} :
    items.find? wanted = some item ↔ item ∈ items ∧ wanted item = true := by
  constructor
  · intro found
    exact ⟨List.mem_of_find?_eq_some found, List.find?_some found⟩
  · rintro ⟨among, wanted_item⟩
    cases found : items.find? wanted with
    | none => exact absurd wanted_item (List.find?_eq_none.mp found item among)
    | some other =>
      have same := unique other (List.mem_of_find?_eq_some found) item among
        (List.find?_some found) wanted_item
      rw [same]

namespace Settings

/-! ## Choosing -/

/-- The value that a field is made of, if any: that of the argument of its name, or without one that of
the variable of its name. -/
inductive Chooses (sources : Sources) (name : String) : Option Value → Prop where
  | argument (entry : String × Value) : entry ∈ sources.arguments →
      sameName entry.1 name = true → Chooses sources name (some entry.2)
  | «variable» (entry : String × String) :
      (∀ argument ∈ sources.arguments, sameName argument.1 name = false) →
      entry ∈ sources.environment → sources.convention.reads name entry = true →
      Chooses sources name (some (sources.convention.value entry.2))
  | standard : (∀ argument ∈ sources.arguments, sameName argument.1 name = false) →
      (∀ entry ∈ sources.environment, sources.convention.reads name entry = false) →
      Chooses sources name none

theorem sameName_of_reads {convention : Convention} {name : String} {entry : String × String}
    (reads : convention.reads name entry = true) : sameName entry.1 (convention.lead ++ name) = true := by
  unfold Convention.reads at reads
  rw [Bool.and_eq_true] at reads
  obtain ⟨named, _⟩ := reads
  split at named
  · rw [eq_of_beq named]
    exact sameName_iff.mpr rfl
  · exact named

section
variable {sources : Sources} (oneArgument : OneSpelling sources.arguments)
  (oneVariable : OneSpelling sources.environment)

theorem find?_argument_iff (oneArgument : OneSpelling sources.arguments) {name : String}
    {entry : String × Value} :
    sources.arguments.find? (fun entry => sameName entry.1 name) = some entry ↔
      entry ∈ sources.arguments ∧ sameName entry.1 name = true :=
  find?_eq_some_iff_of_unique fun _ among _ alsoAmong => oneArgument.eq_of_sameName among alsoAmong

theorem find?_variable_iff (oneVariable : OneSpelling sources.environment) {name : String}
    {entry : String × String} :
    sources.environment.reverse.find? (sources.convention.reads name) = some entry ↔
      entry ∈ sources.environment ∧ sources.convention.reads name entry = true := by
  -- The last variable would count, but there is one at most.
  rw [find?_eq_some_iff_of_unique, List.mem_reverse]
  intro first among second alsoAmong reads alsoReads
  exact oneVariable.eq_of_sameName (List.mem_reverse.mp among) (List.mem_reverse.mp alsoAmong)
    (sameName_of_reads reads) (sameName_of_reads alsoReads)

include oneArgument oneVariable

theorem chooses_given (name : String) : Chooses sources name (sources.given? name) := by
  unfold Sources.given? lookupName? Convention.given?
  cases argument : sources.arguments.find? (fun entry => sameName entry.1 name) with
  | some entry =>
    obtain ⟨among, named⟩ := (find?_argument_iff oneArgument).mp argument
    exact .argument entry among named
  | none =>
    have noArgument (entry : String × Value) (among : entry ∈ sources.arguments) :
        sameName entry.1 name = false := by
      simpa using List.find?_eq_none.mp argument entry among
    cases found : sources.environment.reverse.find? (sources.convention.reads name) with
    | some entry =>
      obtain ⟨among, reads⟩ := (find?_variable_iff oneVariable).mp found
      exact .variable entry noArgument among reads
    | none =>
      refine .standard noArgument fun entry among => ?_
      simpa using List.find?_eq_none.mp found entry (List.mem_reverse.mpr among)

/-- One value at most is chosen for a field, and it is the one that is looked up. -/
theorem chooses_iff {name : String} {chosen : Option Value} :
    Chooses sources name chosen ↔ sources.given? name = chosen := by
  constructor
  · intro chooses
    unfold Sources.given? lookupName? Convention.given?
    cases chooses with
    | argument entry among named =>
      rw [(find?_argument_iff oneArgument).mpr ⟨among, named⟩]
      rfl
    | «variable» entry noArgument among reads =>
      have absent : sources.arguments.find? (fun entry => sameName entry.1 name) = none :=
        List.find?_eq_none.mpr fun argument among => by simp [noArgument argument among]
      rw [absent, (find?_variable_iff oneVariable).mpr ⟨among, reads⟩]
      rfl
    | standard noArgument noVariable =>
      have absent : sources.arguments.find? (fun entry => sameName entry.1 name) = none :=
        List.find?_eq_none.mpr fun argument among => by simp [noArgument argument among]
      have unset : sources.environment.reverse.find? (sources.convention.reads name) = none :=
        List.find?_eq_none.mpr fun entry among => by simp [noVariable entry (List.mem_reverse.mp among)]
      rw [absent, unset]
      rfl
  · rintro rfl
    exact chooses_given oneArgument oneVariable name

end

/-! ## Fields -/

inductive Field where
  | leaves
  | proof
  | flags
  | hash
  | level
  deriving DecidableEq

namespace Field

def all : List Field := [.leaves, .proof, .flags, .hash, .level]

theorem mem_all (field : Field) : field ∈ all := by
  cases field <;> decide

def name : Field → String
  | .leaves => leavesField
  | .proof => proofField
  | .flags => flagsField
  | .hash => hashField
  | .level => levelField

def Content : Field → Type
  | .leaves | .proof | .flags => Nat
  | .hash => HashName
  | .level => String

def of (settings : Settings) : (field : Field) → field.Content
  | .leaves => settings.limits.leaves
  | .proof => settings.limits.proof
  | .flags => settings.limits.flags
  | .hash => settings.defaultHash
  | .level => settings.logLevel

def standard : (field : Field) → field.Content
  | .leaves | .proof => (65536 : Nat)
  | .flags => (131072 : Nat)
  | .hash => HashName.standard
  | .level => "INFO"

def Means : (field : Field) → Value → field.Content → Prop
  | .leaves | .proof | .flags => MeansLimit
  | .hash => MeansHash
  | .level => MeansLevel

def read : (field : Field) → Value → Except Fault field.Content
  | .leaves | .proof | .flags => readLimit
  | .hash => readHash
  | .level => readLevel

theorem read_eq_ok_iff {field : Field} {value : Value} {content : field.Content} :
    field.read value = .ok content ↔ field.Means value content := by
  cases field with
  | leaves | proof | flags => exact readLimit_eq_ok_iff
  | hash => exact readHash_eq_ok_iff
  | level => exact readLevel_eq_ok_iff

def taken (sources : Sources) (field : Field) : Except Complaint field.Content :=
  Settings.field sources field.name field.read field.standard

theorem taken_eq_ok {sources : Sources} {field : Field} {content : field.Content} :
    field.taken sources = .ok content ↔
      (∃ value, sources.given? field.name = some value ∧ field.Means value content) ∨
        sources.given? field.name = none ∧ field.standard = content := by
  unfold taken Settings.field
  cases sources.given? field.name with
  | none => simp
  | some value =>
    simp only [← read_eq_ok_iff]
    cases read : field.read value <;> simp [Except.mapError, read]

theorem taken_eq_error {sources : Sources} {field : Field} {complaint : Complaint} :
    field.taken sources = .error complaint ↔
      ∃ value fault, sources.given? field.name = some value ∧ field.read value = .error fault ∧
        complaint = .about field.name fault := by
  unfold taken Settings.field
  cases sources.given? field.name with
  | none => simp
  | some value => cases read : field.read value <;> simp [Except.mapError, read, eq_comm]

/-- A field takes what the value chosen for it means, and its default where none is chosen. -/
inductive Takes (sources : Sources) (field : Field) : field.Content → Prop where
  | given {value : Value} {content : field.Content} : Chooses sources field.name (some value) →
      field.Means value content → Takes sources field content
  | standard : Chooses sources field.name none → Takes sources field field.standard

def Refuses (sources : Sources) (field : Field) : Prop :=
  ∃ value, Chooses sources field.name (some value) ∧ ∀ content, ¬ field.Means value content

def Blamed (sources : Sources) (field : Field) (complaint : Complaint) : Prop :=
  ∃ value fault, Chooses sources field.name (some value) ∧ field.read value = .error fault ∧
    complaint = .about field.name fault

section
variable {sources : Sources} (oneArgument : OneSpelling sources.arguments)
  (oneVariable : OneSpelling sources.environment)
include oneArgument oneVariable

theorem taken_eq_ok_iff {field : Field} {content : field.Content} :
    field.taken sources = .ok content ↔ field.Takes sources content := by
  rw [taken_eq_ok]
  constructor
  · rintro (⟨value, given, means⟩ | ⟨given, rfl⟩)
    · exact .given ((chooses_iff oneArgument oneVariable).mpr given) means
    · exact .standard ((chooses_iff oneArgument oneVariable).mpr given)
  · intro takes
    cases takes with
    | given chooses means =>
      exact .inl ⟨_, (chooses_iff oneArgument oneVariable).mp chooses, means⟩
    | standard chooses => exact .inr ⟨(chooses_iff oneArgument oneVariable).mp chooses, rfl⟩

theorem taken_eq_error_iff {field : Field} {complaint : Complaint} :
    field.taken sources = .error complaint ↔ field.Blamed sources complaint := by
  simp only [taken_eq_error, Blamed, chooses_iff oneArgument oneVariable]

theorem means_of_takes {field : Field} {value : Value} {content : field.Content}
    (takes : field.Takes sources content) (chooses : Chooses sources field.name (some value)) :
    field.Means value content := by
  have given := (chooses_iff oneArgument oneVariable).mp chooses
  cases takes with
  | given other means =>
    rw [(chooses_iff oneArgument oneVariable).mp other] at given
    cases given
    exact means
  | standard other =>
    rw [(chooses_iff oneArgument oneVariable).mp other] at given
    cases given

omit oneArgument oneVariable in
theorem refuses_iff {field : Field} :
    field.Refuses sources ↔ ∃ complaint, field.Blamed sources complaint := by
  constructor
  · rintro ⟨value, chooses, meaningless⟩
    cases read : field.read value with
    | ok content => exact absurd (read_eq_ok_iff.mp read) (meaningless content)
    | error fault => exact ⟨_, value, fault, chooses, read, rfl⟩
  · rintro ⟨complaint, value, fault, chooses, read, rfl⟩
    refine ⟨value, chooses, fun content means => ?_⟩
    rw [read_eq_ok_iff.mpr means] at read
    cases read

end

/-! ## A field given again -/

def spell : (field : Field) → field.Content → Value
  | .leaves | .proof | .flags => fun (bound : Nat) => .integer bound
  | .hash => fun (hash : HashName) => .text hash.text
  | .level => .text

theorem means_spell_of_means {field : Field} {value : Value} {content : field.Content}
    (means : field.Means value content) : field.Means (field.spell content) content := by
  cases field with
  | leaves | proof | flags => exact meansLimit_integer means.2
  | hash => exact ⟨_, .text _, HashName.lowerCase_text content⟩
  | level =>
    obtain ⟨text, _, rfl⟩ := means
    exact ⟨_, .text _, Text.upperCase_upperCase text⟩

theorem means_spell_standard (field : Field) : field.Means (field.spell field.standard) field.standard := by
  cases field with
  | leaves | proof => exact meansLimit_integer (by decide : 0 < 65536)
  | flags => exact meansLimit_integer (by decide : 0 < 131072)
  | hash => exact ⟨_, .text _, HashName.lowerCase_text .standard⟩
  | level => exact ⟨_, .text _, (by decide +kernel : Text.upperCase "INFO" = "INFO")⟩

theorem means_spell_of_taken {sources : Sources} {field : Field} {content : field.Content}
    (taken : field.taken sources = .ok content) : field.Means (field.spell content) content := by
  obtain ⟨value, _, means⟩ | ⟨_, rfl⟩ := taken_eq_ok.mp taken
  · exact means_spell_of_means means
  · exact means_spell_standard field

end Field

/-! ## All fields at once -/

theorem complaints_eq_nil_iff {α : Type} {taken : Except Complaint α} :
    complaints taken = [] ↔ ∃ content, taken = .ok content := by
  cases taken <;> simp [complaints]

theorem build_eq_ok_iff {sources : Sources} {settings : Settings} :
    build sources = .ok settings ↔ ∀ field : Field, field.taken sources = .ok (field.of settings) := by
  constructor
  · intro built
    simp only [build] at built
    split at built
    next leaves proof flags hash level =>
      cases built
      intro field
      cases field with
      | leaves => exact leaves
      | proof => exact proof
      | flags => exact flags
      | hash => exact hash
      | level => exact level
    next => cases built
  · intro taken
    have leaves : field sources leavesField readLimit 65536 = .ok settings.limits.leaves := taken .leaves
    have proof : field sources proofField readLimit 65536 = .ok settings.limits.proof := taken .proof
    have flags : field sources flagsField readLimit 131072 = .ok settings.limits.flags := taken .flags
    have hash : field sources hashField readHash .standard = .ok settings.defaultHash := taken .hash
    have level : field sources levelField readLevel "INFO" = .ok settings.logLevel := taken .level
    simp only [build, leaves, proof, flags, hash, level]

def allComplaints (sources : Sources) : List Complaint :=
  Field.all.flatMap fun field => complaints (field.taken sources)

theorem exists_build_iff {sources : Sources} :
    (∃ settings, build sources = .ok settings) ↔ allComplaints sources = [] := by
  constructor
  · rintro ⟨settings, built⟩
    exact List.flatMap_eq_nil_iff.mpr fun field _ =>
      complaints_eq_nil_iff.mpr ⟨_, build_eq_ok_iff.mp built field⟩
  · intro nothing
    have taken (field : Field) : ∃ content, field.taken sources = .ok content :=
      complaints_eq_nil_iff.mp (List.flatMap_eq_nil_iff.mp nothing field (Field.mem_all field))
    obtain ⟨leaves, leavesTaken⟩ := taken .leaves
    obtain ⟨proof, proofTaken⟩ := taken .proof
    obtain ⟨flags, flagsTaken⟩ := taken .flags
    obtain ⟨hash, hashTaken⟩ := taken .hash
    obtain ⟨level, levelTaken⟩ := taken .level
    refine ⟨⟨⟨leaves, proof, flags⟩, hash, level⟩, build_eq_ok_iff.mpr fun field => ?_⟩
    cases field with
    | leaves => exact leavesTaken
    | proof => exact proofTaken
    | flags => exact flagsTaken
    | hash => exact hashTaken
    | level => exact levelTaken

theorem eq_allComplaints_of_build {sources : Sources} {found : List Complaint}
    (built : build sources = .error found) : found = allComplaints sources := by
  simp only [build] at built
  split at built
  next => cases built
  next =>
    cases built
    simp only [allComplaints, Field.all, List.flatMap_cons, List.flatMap_nil, List.append_assoc,
      List.append_nil]
    rfl

/-- The fields that are refused are complained about: each of them once, in the order in which they are
declared, and no other. -/
def Reports (sources : Sources) (found : List Complaint) : Prop :=
  ∃ refused : List Field, refused.Sublist Field.all ∧
    (∀ field : Field, field ∈ refused ↔ field.Refuses sources) ∧
    List.Forall₂ (fun field complaint => field.Blamed sources complaint) refused found

section
variable {sources : Sources} (oneArgument : OneSpelling sources.arguments)
  (oneVariable : OneSpelling sources.environment)
include oneArgument oneVariable

theorem Field.refuses_iff_complaints {field : Field} :
    field.Refuses sources ↔ complaints (field.taken sources) ≠ [] := by
  rw [Field.refuses_iff]
  simp only [← Field.taken_eq_error_iff oneArgument oneVariable]
  cases field.taken sources <;> simp [complaints]

theorem blamed_of_fields (fields : List Field) :
    List.Forall₂ (fun field complaint => field.Blamed sources complaint)
      (fields.filter fun field => !(complaints (field.taken sources)).isEmpty)
      (fields.flatMap fun field => complaints (field.taken sources)) := by
  induction fields with
  | nil => exact .nil
  | cons field fields ih =>
    rw [List.filter_cons, List.flatMap_cons]
    cases taken : field.taken sources with
    | ok content => exact ih
    | error complaint =>
      exact .cons ((Field.taken_eq_error_iff oneArgument oneVariable).mp taken) ih

theorem reports_allComplaints : Reports sources (allComplaints sources) := by
  refine ⟨_, List.filter_sublist, fun field => ?_, blamed_of_fields oneArgument oneVariable Field.all⟩
  rw [Field.refuses_iff_complaints oneArgument oneVariable, List.mem_filter]
  simp [Field.mem_all]

end

/-! ## Given again -/

theorem toArguments_eq (settings : Settings) :
    settings.toArguments = Field.all.map fun field => (field.name, field.spell (field.of settings)) := rfl

theorem oneSpelling_toArguments (settings : Settings) : OneSpelling settings.toArguments := by
  have names : (Field.all.map Field.name).Pairwise fun first second => sameName first second = false := by
    decide +kernel
  exact names

theorem given_toArguments (settings : Settings) (environment : Environment) (convention : Convention)
    (field : Field) :
    Sources.given? ⟨settings.toArguments, environment, convention⟩ field.name =
      some (field.spell (field.of settings)) := by
  have found : settings.toArguments.find? (fun entry => sameName entry.1 field.name) =
      some (field.name, field.spell (field.of settings)) := by
    refine (find?_eq_some_iff_of_unique fun _ among _ alsoAmong =>
      (oneSpelling_toArguments settings).eq_of_sameName among alsoAmong).mpr ⟨?_, sameName_iff.mpr rfl⟩
    rw [toArguments_eq]
    exact List.mem_map_of_mem (Field.mem_all field)
  simp only [Sources.given?, lookupName?, found, Option.map_some]

theorem build_toArguments {sources : Sources} {settings : Settings} (built : build sources = .ok settings)
    (environment : Environment) (convention : Convention) :
    build ⟨settings.toArguments, environment, convention⟩ = .ok settings := by
  -- Every field is among the arguments, so that the environment is not asked for any.
  refine build_eq_ok_iff.mpr fun field => ?_
  have means := Field.means_spell_of_taken (build_eq_ok_iff.mp built field)
  exact Field.taken_eq_ok.mpr (.inl ⟨_, given_toArguments settings environment convention field, means⟩)

structure Usable (settings : Settings) : Prop where
  leaves : 1 ≤ settings.limits.leaves
  proof : 1 ≤ settings.limits.proof
  flags : 1 ≤ settings.limits.flags
  hash : Value.toHashName (.text settings.defaultHash.text) = .ok settings.defaultHash
  level : Text.upperCase settings.logLevel = settings.logLevel

theorem toHashName_of_meansHash {value : Value} {content : String} {hash : HashName}
    (said : SaysText value content) (means : MeansHash value hash) :
    Value.toHashName (.text content) = .ok hash := by
  obtain ⟨other, saidToo, lower⟩ := means
  obtain rfl := said.unique saidToo
  simp only [Value.toHashName, HashName.ofAnyCase?, HashName.ofText_eq_some_iff.mpr lower]

theorem usable_of_build {sources : Sources} {settings : Settings} (built : build sources = .ok settings) :
    settings.Usable := by
  have means (field : Field) := Field.means_spell_of_taken (build_eq_ok_iff.mp built field)
  obtain ⟨_, said, upper⟩ := means .level
  obtain rfl := said.unique (.text _)
  exact {
    leaves := (means .leaves).2
    proof := (means .proof).2
    flags := (means .flags).2
    hash := toHashName_of_meansHash (.text _) (means .hash)
    level := upper }

/-! ## The convention asked for -/

namespace Convention

/-- The names of the arguments that ask for another convention than the standard one. -/
def wishes : List String :=
  ["_env_prefix", "_env_prefix_target", "_case_sensitive", "_env_ignore_empty", "_env_parse_none_str"]

theorem wish_of_absent {arguments : List (String × Value)} {name : String}
    (absent : ∀ entry ∈ arguments, entry.1 ≠ name) : wish? arguments name = none := by
  have missing : arguments.lookup name = none := by
    rw [List.lookup_eq_none_iff]
    intro entry among
    simpa using (absent entry among).symm
  rw [wish?, missing]
  rfl

theorem ofArguments_of_unasked {arguments : List (String × Value)}
    (unasked : ∀ entry ∈ arguments, entry.1 ∉ wishes) : ofArguments arguments = .ok standard := by
  have none_of (name : String) (wish : name ∈ wishes) : wish? arguments name = none :=
    wish_of_absent fun entry among same => unasked entry among (same ▸ wish)
  simp only [ofArguments, leadOf, leads, none_of "_env_prefix" (by decide),
    none_of "_env_prefix_target" (by decide), none_of "_case_sensitive" (by decide),
    none_of "_env_ignore_empty" (by decide), none_of "_env_parse_none_str" (by decide)]
  rfl

end Convention

/-! ## Settings from arguments and environment -/

theorem configured_of_convention {arguments : List (String × Value)} {convention : Convention}
    (asked : Convention.ofArguments arguments = .ok convention) (environment : Environment) :
    Action.configured arguments environment =
      (build ⟨arguments, environment, convention⟩).mapError .invalid := by
  simp only [Action.configured, Sources.ofArguments, asked, Bind.bind, Except.bind, Pure.pure,
    Except.pure]

theorem configured_of_refused {arguments : List (String × Value)} {failure : Failure}
    (refused : Convention.ofArguments arguments = .error failure) (environment : Environment) :
    Action.configured arguments environment = .error failure := by
  simp only [Action.configured, Sources.ofArguments, refused, Bind.bind, Except.bind]

theorem build_of_configured {arguments : List (String × Value)} {environment : Environment}
    {settings : Settings} (configured : Action.configured arguments environment = .ok settings) :
    ∃ sources, build sources = .ok settings := by
  cases asked : Convention.ofArguments arguments with
  | error failure =>
    rw [configured_of_refused asked] at configured
    cases configured
  | ok convention =>
    rw [configured_of_convention asked] at configured
    cases built : build ⟨arguments, environment, convention⟩ with
    | error found => simp [built, Except.mapError] at configured
    | ok other =>
      simp only [built, Except.mapError, Except.ok.injEq] at configured
      exact ⟨_, configured ▸ built⟩

theorem configured_toArguments {sources : Sources} {settings : Settings}
    (built : build sources = .ok settings) (environment : Environment) :
    Action.configured settings.toArguments environment = .ok settings := by
  have unasked : ∀ entry ∈ settings.toArguments, entry.1 ∉ Convention.wishes := by
    rw [toArguments_eq]
    intro entry among
    obtain ⟨field, _, rfl⟩ := List.mem_map.mp among
    have named : field.name ∉ Convention.wishes := by
      cases field <;> decide
    exact named
  rw [configured_of_convention (Convention.ofArguments_of_unasked unasked),
    build_toArguments built]
  rfl

/-- Settings are made of what is chosen for their fields, each of them on its own, or else fail over all
fields for which something is chosen that means nothing in them. -/
structure MadeFrom (sources : Sources) (result : Except Failure Settings) : Prop where
  succeeds (settings : Settings) :
    result = .ok settings ↔ ∀ field : Field, field.Takes sources (field.of settings)
  fails : (∃ failure, result = .error failure) ↔ ∃ field : Field, field.Refuses sources
  reports (failure : Failure) : result = .error failure →
    ∃ found, failure = .invalid found ∧ Reports sources found
  /-- A hash function is the one that is had for the text it was chosen by. -/
  resolves (settings : Settings) (value : Value) (content : String) : result = .ok settings →
    Chooses sources hashField (some value) → SaysText value content →
    Value.toHashName (.text content) = .ok settings.defaultHash

theorem madeFrom_build {sources : Sources} (oneArgument : OneSpelling sources.arguments)
    (oneVariable : OneSpelling sources.environment) :
    MadeFrom sources ((build sources).mapError .invalid) := by
  have succeeds (settings : Settings) : (build sources).mapError Failure.invalid = .ok settings ↔
      ∀ field : Field, field.Takes sources (field.of settings) := by
    simp only [← Field.taken_eq_ok_iff oneArgument oneVariable, ← build_eq_ok_iff]
    cases build sources <;> simp [Except.mapError]
  have fails : (∃ failure, (build sources).mapError Failure.invalid = .error failure) ↔
      ∃ field : Field, field.Refuses sources := by
    calc (∃ failure, (build sources).mapError Failure.invalid = .error failure)
        ↔ ¬ ∃ settings, build sources = .ok settings := by
          cases build sources <;> simp [Except.mapError]
      _ ↔ ¬ allComplaints sources = [] := not_congr exists_build_iff
      _ ↔ ∃ field : Field, field.Refuses sources := by
          simp [allComplaints, Field.refuses_iff_complaints oneArgument oneVariable, Field.mem_all]
  have reports (failure : Failure) (failed : (build sources).mapError Failure.invalid = .error failure) :
      ∃ found, failure = .invalid found ∧ Reports sources found := by
    cases built : build sources with
    | ok settings => simp [built, Except.mapError] at failed
    | error found =>
      simp only [built, Except.mapError, Except.error.injEq] at failed
      refine ⟨found, failed.symm, ?_⟩
      rw [eq_allComplaints_of_build built]
      exact reports_allComplaints oneArgument oneVariable
  refine ⟨succeeds, fails, reports, fun settings value content configured chooses said => ?_⟩
  exact toHashName_of_meansHash said (Field.means_of_takes oneArgument oneVariable
    ((succeeds settings).mp configured .hash) chooses)

/-- The names of arguments that bring in other sources, or values inside of values. What these would do is
left open. -/
def furtherWishes : List String :=
  ["_env_file", "_secrets_dir", "_cli_parse_args", "_cli_settings_source", "_build_sources",
    "_env_nested_delimiter", "_env_nested_max_split"]

/-- There are no sources but the arguments themselves, the environment and the defaults. -/
def NamesNoSource (arguments : List (String × Value)) : Prop :=
  ∀ entry ∈ arguments, entry.1 ∉ furtherWishes

/-- What comes of making settings from arguments and an environment. The arguments are asked first by
which convention the environment is to be read. -/
structure Configures (arguments : List (String × Value)) (environment : Environment) : Prop where
  /-- Without such a wish variables have the standard lead, are found in any letter case, and count with
  whatever text they have. -/
  unasked : (∀ entry ∈ arguments, entry.1 ∉ Convention.wishes) →
    ∃ convention, Convention.ofArguments arguments = .ok convention ∧
      (∀ name entry, convention.reads name entry = sameName entry.1 ("MERKLE_" ++ name)) ∧
      ∀ text, convention.value text = .text text
  refused (failure : Failure) : Convention.ofArguments arguments = .error failure →
    Action.configured arguments environment = .error failure
  made (convention : Convention) : Convention.ofArguments arguments = .ok convention →
    MadeFrom ⟨arguments, environment, convention⟩ (Action.configured arguments environment)

theorem configures_of_oneSpelling {arguments : List (String × Value)} {environment : Environment}
    (oneArgument : OneSpelling arguments) (oneVariable : OneSpelling environment) :
    Configures arguments environment where
  unasked unasked := by
    refine ⟨.standard, Convention.ofArguments_of_unasked unasked, fun name entry => ?_, fun text => rfl⟩
    simp [Convention.reads, Convention.standard]
  refused _ refused := configured_of_refused refused environment
  made convention asked := by
    rw [configured_of_convention asked]
    exact madeFrom_build oneArgument oneVariable

end Settings

open Settings

/-- Where no two names differ in letter case at most, and the arguments name no other source, settings
are made field by field: of the argument of its name, or else of the variable, or else of the default.
They fail over all fields together for which the value so chosen means nothing, and never go on to
another value. All settings that are made have positive limits, a hash function and a level in upper
case; and their own fields as arguments make the same settings again in every environment. -/
theorem settings_made_of_chosen_values (arguments : List (String × Value)) (environment : Environment) :
    (OneSpelling arguments → OneSpelling environment → NamesNoSource arguments →
      Configures arguments environment) ∧
    ∀ settings, Action.configured arguments environment = .ok settings →
      settings.Usable ∧
        ∀ other, Action.configured settings.toArguments other = .ok settings := by
  refine ⟨fun oneArgument oneVariable _ => configures_of_oneSpelling oneArgument oneVariable,
    fun settings configured => ?_⟩
  obtain ⟨sources, built⟩ := build_of_configured configured
  exact ⟨usable_of_build built, configured_toArguments built⟩

/-- Arguments in unusual spellings, of which one stands before a variable that names no hash function. -/
def unusualArguments : List (String × Value) :=
  [("default_hasher", .buffer .growable (.ofText "SHA3_256")),
    ("Max_Leaves", .buffer .fixed (.ofText " 16")), ("MAX_FLAGS", .boolean true), ("colour", .null)]

def unusualEnvironment : Environment :=
  [("MERKLE_DEFAULT_HASHER", "md5"), ("merkle_log_level", "warnıng"), ("MERKLE_MAX_FLAGS", "")]

theorem settings_made_of_chosen_values_in_other_spellings :
    OneSpelling unusualArguments ∧ OneSpelling unusualEnvironment ∧ NamesNoSource unusualArguments ∧
      Action.configured unusualArguments unusualEnvironment =
        .ok ⟨⟨16, 65536, 1⟩, .sha3, "WARNING"⟩ ∧
      Configures unusualArguments unusualEnvironment ∧
      ∀ other, Action.configured
        [("MAX_LEAVES", .integer 16), ("MAX_PROOF_LENGTH", .integer 65536), ("MAX_FLAGS", .integer 1),
          ("DEFAULT_HASHER", .text "sha3_256"), ("LOG_LEVEL", .text "WARNING")] other =
        .ok ⟨⟨16, 65536, 1⟩, .sha3, "WARNING"⟩ := by
  have oneArgument : OneSpelling unusualArguments := by
    unfold OneSpelling
    decide +kernel
  have oneVariable : OneSpelling unusualEnvironment := by
    unfold OneSpelling
    decide +kernel
  have noSource : NamesNoSource unusualArguments := by
    unfold NamesNoSource
    decide +kernel
  have configured : Action.configured unusualArguments unusualEnvironment =
      .ok ⟨⟨16, 65536, 1⟩, .sha3, "WARNING"⟩ := by
    decide +kernel
  obtain ⟨configures, lasting⟩ := settings_made_of_chosen_values unusualArguments unusualEnvironment
  exact ⟨oneArgument, oneVariable, noSource, configured, configures oneArgument oneVariable noSource,
    (lasting _ configured).2⟩

def otherLead : List (String × Value) := [("_env_prefix", .text "FOO_")]

def bothLeads : Environment := [("FOO_MAX_LEAVES", "5"), ("MERKLE_MAX_LEAVES", "6")]

/-- A variable of the standard lead, the only value there is for a field by the standard convention, is
passed over where an argument asks for another lead. -/
theorem standard_variable_passed_over :
    OneSpelling otherLead ∧ OneSpelling bothLeads ∧ NamesNoSource otherLead ∧
      Field.leaves.Takes ⟨otherLead, bothLeads, .standard⟩ (6 : Nat) ∧
      ¬ Field.leaves.Takes ⟨otherLead, bothLeads, .standard⟩ (5 : Nat) ∧
      Action.configured otherLead bothLeads = .ok ⟨⟨5, 65536, 131072⟩, .keccak256, "INFO"⟩ := by
  have oneArgument : OneSpelling otherLead := by
    unfold OneSpelling
    decide +kernel
  have oneVariable : OneSpelling bothLeads := by
    unfold OneSpelling
    decide +kernel
  have noSource : NamesNoSource otherLead := by
    unfold NamesNoSource
    decide
  have chooses : Chooses ⟨otherLead, bothLeads, .standard⟩ leavesField (some (.text "6")) :=
    .variable ("MERKLE_MAX_LEAVES", "6") (by decide +kernel) (by decide) (by decide +kernel)
  have six : readInteger (.text "6") = .ok 6 := rfl
  refine ⟨oneArgument, oneVariable, noSource,
    .given chooses ⟨readInteger_eq_ok_iff.mp six, by decide⟩, fun takes => ?_, by decide +kernel⟩
  obtain ⟨five, _⟩ := Field.means_of_takes oneArgument oneVariable takes chooses
  have both := six.symm.trans (readInteger_eq_ok_iff.mpr five)
  cases both

end Inclusion
