import Mathlib.Data.List.Induction
import Mathlib.Data.List.TakeWhile
import Inclusion.CommandLine.Run

/-! Command lines that ask for a check: options in any number and order, a command and a path. They
are read as they are meant, and a run gets as far as the file whenever the settings can be used. -/

set_option autoImplicit false

namespace Inclusion.CommandLine

/-- An option with its value, which stands behind an equals sign or in an argument of its own. -/
inductive Choice where
  | hash (name : HashName) (attached : Bool)
  | level (text : String) (attached : Bool) (known : levelNames.contains (Text.lowerCase text) = true)

namespace Choice

def entry : Choice → String × String
  | .hash name _ => (hashOption, name.text)
  | .level text _ _ => (levelOption, text)

def attached : Choice → Bool
  | .hash _ attached | .level _ attached _ => attached

def arguments (choice : Choice) : List String :=
  if choice.attached then [choice.entry.1 ++ "=" ++ choice.entry.2]
  else [choice.entry.1, choice.entry.2]

def settle (options : Options) : Choice → Options
  | .hash name _ => { options with hash := some name }
  | .level text _ _ => { options with level := some (Text.lowerCase text) }

end Choice

/-- A command line that asks for a check. A path that could be taken for an option stands behind two
hyphens. -/
structure Line where
  choices : List Choice
  command : Command
  marked : Bool
  path : String
  plain : marked = false → looksLikeOption path = false
  clean : path.toList.contains '\x00' = false

namespace Line

def operands (line : Line) : List String := if line.marked then ["--", line.path] else [line.path]

def arguments (line : Line) : List String :=
  line.choices.flatMap Choice.arguments ++ line.command.name :: line.operands

def options (line : Line) : Options := line.choices.foldl Choice.settle ⟨none, none⟩

end Line

/-! ## Scanning -/

theorem splitOption_attached {name : String} (plain : ∀ character ∈ name.toList, character != '=')
    (value : String) : splitOption (name ++ "=" ++ value) = (name, some value) := by
  have characters : (name ++ "=" ++ value).toList = name.toList ++ '=' :: value.toList := by simp
  simp only [splitOption, characters]
  rw [List.dropWhile_append_of_pos plain, List.takeWhile_append_of_pos plain]
  simp

theorem splitOption_alone {name : String} (plain : ∀ character ∈ name.toList, character != '=') :
    splitOption name = (name, none) := by
  have all : name.toList.dropWhile (· != '=') = [] := List.dropWhile_eq_nil_iff.mpr plain
  simp only [splitOption, all]

def Scan.add (entry : String × String) (scan : Scan) : Scan :=
  { scan with options := entry :: scan.options }

section
variable {valued : List String} {interspersed : Bool} {argument : String} {arguments : List String}

theorem scan_attached {name value : String} (option : looksLikeOption argument = true)
    (open' : argument ≠ "--") (known : valued.contains name = true)
    (split : splitOption argument = (name, some value)) :
    scan valued interspersed (argument :: arguments) =
      (scan valued interspersed arguments).map (Scan.add (name, value)) := by
  rw [scan]
  simp only [beq_iff_eq, open', option, split, known, if_true, if_false]
  rfl

theorem scan_separate {name value : String} (option : looksLikeOption argument = true)
    (open' : argument ≠ "--") (known : valued.contains name = true)
    (split : splitOption argument = (name, none)) :
    scan valued interspersed (argument :: value :: arguments) =
      (scan valued interspersed arguments).map (Scan.add (name, value)) := by
  rw [scan]
  simp only [beq_iff_eq, open', option, split, known, if_true, if_false]
  rfl

theorem scan_nil : scan valued interspersed [] = .ok ⟨[], false, []⟩ := by
  rw [scan]

theorem scan_hyphens : scan valued interspersed ("--" :: arguments) = .ok ⟨[], false, arguments⟩ := by
  rw [scan]
  rfl

theorem scan_plain (plain : looksLikeOption argument = false) :
    scan valued interspersed (argument :: arguments) =
      if interspersed then (scan valued interspersed arguments).map fun scan =>
          { scan with rest := argument :: scan.rest }
      else .ok ⟨[], false, argument :: arguments⟩ := by
  have open' : argument ≠ "--" := by
    rintro rfl
    cases plain
  rw [scan]
  simp only [beq_iff_eq, open', plain, if_false, Bool.false_eq_true]

end

theorem looksLikeOption_of_toList {argument : String} {second : Char} {rest : List Char}
    (characters : argument.toList = '-' :: second :: rest) : looksLikeOption argument = true := by
  unfold looksLikeOption
  rw [characters]
  rfl

structure Named (name : String) : Prop where
  known : [hashOption, levelOption].contains name = true
  plain : ∀ character ∈ name.toList, character != '='
  hyphens : ∃ third rest, name.toList = '-' :: '-' :: third :: rest

theorem Choice.named (choice : Choice) : Named choice.entry.1 := by
  have ofHash : Named hashOption :=
    ⟨by decide, List.all_eq_true.mp (by decide), 'h', "asher".toList, by decide⟩
  have ofLevel : Named levelOption :=
    ⟨by decide, List.all_eq_true.mp (by decide), 'l', "og-level".toList, by decide⟩
  cases choice with
  | hash name attached => exact ofHash
  | level text attached known => exact ofLevel

theorem Named.scan_attached {name : String} (named : Named name) (value : String)
    (arguments : List String) :
    scanGroup ((name ++ "=" ++ value) :: arguments) =
      (scanGroup arguments).map (Scan.add (name, value)) := by
  obtain ⟨third, rest, characters⟩ := named.hyphens
  have more : (name ++ "=" ++ value).toList =
      '-' :: '-' :: third :: (rest ++ '=' :: value.toList) := by
    simp [characters]
  have open' : name ++ "=" ++ value ≠ "--" := by
    intro same
    rw [same] at more
    cases more
  exact CommandLine.scan_attached (looksLikeOption_of_toList more) open' named.known
    (splitOption_attached named.plain value)

theorem Named.scan_separate {name : String} (named : Named name) (value : String)
    (arguments : List String) :
    scanGroup (name :: value :: arguments) =
      (scanGroup arguments).map (Scan.add (name, value)) := by
  obtain ⟨third, rest, characters⟩ := named.hyphens
  have open' : name ≠ "--" := by
    rintro rfl
    cases characters
  exact CommandLine.scan_separate (looksLikeOption_of_toList characters) open' named.known
    (splitOption_alone named.plain)

theorem scanGroup_choice (choice : Choice) (arguments : List String) :
    scanGroup (choice.arguments ++ arguments) =
      (scanGroup arguments).map (Scan.add choice.entry) := by
  unfold Choice.arguments
  cases choice.attached with
  | true => exact choice.named.scan_attached choice.entry.2 arguments
  | false => exact choice.named.scan_separate choice.entry.2 arguments

theorem scanGroup_arguments (line : Line) :
    scanGroup line.arguments =
      .ok ⟨line.choices.map Choice.entry, false, line.command.name :: line.operands⟩ := by
  unfold Line.arguments
  induction line.choices with
  | nil =>
    have plain : looksLikeOption line.command.name = false := by
      cases line.command <;> rfl
    exact scan_plain plain
  | cons choice choices ih =>
    rw [List.flatMap_cons, List.append_assoc, scanGroup_choice, ih]
    rfl

theorem scan_operands (line : Line) : scan [] true line.operands = .ok ⟨[], false, [line.path]⟩ := by
  unfold Line.operands
  cases marked : line.marked with
  | true => exact scan_hyphens
  | false =>
    rw [if_neg Bool.false_ne_true, scan_plain (line.plain marked), if_pos rfl, scan_nil]
    rfl

/-! ## Options -/

theorem judge_hash (options : Options) (name : HashName) :
    judge options hashOption name.text = .ok { options with hash := some name } := by
  simp [judge, HashName.ofText_text]

theorem judge_level (options : Options) {text : String}
    (known : levelNames.contains (Text.lowerCase text) = true) :
    judge options levelOption text = .ok { options with level := some (Text.lowerCase text) } := by
  have other : (levelOption == hashOption) = false := by decide
  simp only [judge, other, known, if_true, if_false, Bool.false_eq_true]

structure Give (entries : List (String × String)) (options : Options) : Prop where
  hash : entries.lookup hashOption = options.hash.map HashName.text
  level : ∃ text?, entries.lookup levelOption = text? ∧ options.level = text?.map Text.lowerCase ∧
    ∀ text ∈ text?, levelNames.contains (Text.lowerCase text) = true

theorem give_entries (choices : List Choice) :
    Give (choices.map Choice.entry).reverse (choices.foldl Choice.settle ⟨none, none⟩) := by
  -- The last choice comes first among the entries and is settled last.
  induction choices using List.reverseRecOn with
  | nil => exact ⟨rfl, none, rfl, rfl, by simp⟩
  | append_singleton choices choice ih =>
    obtain ⟨hash, text?, level, lowered, known⟩ := ih
    rw [List.map_append, List.reverse_append, List.foldl_append]
    cases choice with
    | hash name attached =>
      have other : (levelOption == hashOption) = false := by decide
      refine ⟨by simp [Choice.entry, Choice.settle], text?, ?_, lowered, known⟩
      simpa [Choice.entry, List.lookup_cons, other] using level
    | level text attached known' =>
      have other : (hashOption == levelOption) = false := by decide
      refine ⟨?_, some text, by simp [Choice.entry], rfl, by simpa using known'⟩
      simpa [Choice.entry, Choice.settle, List.lookup_cons, other] using hash

theorem foldlM_judge {entries : List (String × String)} {final : Options} (give : Give entries final)
    (names : List String) (within : ∀ name ∈ names, name = hashOption ∨ name = levelOption)
    (options : Options) :
    (names.filterMap fun name => (entries.lookup name).map fun value => (name, value)).foldlM
        (fun options (name, value) => judge options name value) options =
      .ok ⟨if hashOption ∈ names then final.hash.or options.hash else options.hash,
        if levelOption ∈ names then final.level.or options.level else options.level⟩ := by
  obtain ⟨hash, text?, level, lowered, known⟩ := give
  have different : levelOption ≠ hashOption := by decide
  -- A name that comes again is judged to the same value again, so none need be excluded.
  induction names generalizing options with
  | nil => rfl
  | cons name names ih =>
    have ih := ih fun other member => within other (List.mem_cons_of_mem name member)
    rcases within name List.mem_cons_self with rfl | rfl
    · cases chosen : final.hash with
      | none =>
        rw [chosen] at hash ih
        rw [List.filterMap_cons_none (by simp [hash]), ih]
        simp [different]
      | some chosen' =>
        rw [chosen] at hash ih
        simp only [List.filterMap_cons, hash, Option.map_some, List.foldlM_cons, judge_hash]
        refine (ih _).trans ?_
        simp [different]
    · cases text? with
      | none =>
        rw [lowered] at ih ⊢
        rw [List.filterMap_cons_none (by simp [level]), ih]
        simp [different.symm]
      | some text =>
        rw [lowered] at ih ⊢
        simp only [List.filterMap_cons, level, Option.map_some, List.foldlM_cons,
          judge_level options (known text rfl)]
        refine (ih _).trans ?_
        simp [different.symm]

theorem Choice.entry_mem (choice : Choice) :
    choice.entry.1 = hashOption ∨ choice.entry.1 = levelOption := by
  cases choice with
  | hash name attached => exact .inl rfl
  | level text attached known => exact .inr rfl

theorem ofScan_line (line : Line) (rest : List String) :
    Options.ofScan ⟨line.choices.map Choice.entry, false, rest⟩ = .ok line.options := by
  have give := give_entries line.choices
  have within : ∀ name ∈ ((line.choices.map Choice.entry).map Prod.fst).eraseDups,
      name = hashOption ∨ name = levelOption := by
    intro name member
    simp only [List.mem_eraseDups, List.map_map, List.mem_map] at member
    obtain ⟨choice, _, rfl⟩ := member
    exact choice.entry_mem
  refine (foldlM_judge give _ within ⟨none, none⟩).trans ?_
  -- An option that is not among the entries is not given either.
  have absent (name : String)
      (missing : name ∉ ((line.choices.map Choice.entry).map Prod.fst).eraseDups) :
      (line.choices.map Choice.entry).reverse.lookup name = none := by
    simp only [List.mem_eraseDups, List.mem_map, not_exists, not_and] at missing
    rw [List.lookup_eq_none_iff]
    intro entry member
    have other := missing entry (List.mem_map.mp (List.mem_reverse.mp member))
    simpa using Ne.symm other
  obtain ⟨hash, text?, level, lowered, _⟩ := give
  change Except.ok _ = Except.ok (Options.mk line.options.hash line.options.level)
  congr 2
  · split
    case isTrue => exact Option.or_none
    case isFalse missing =>
      rw [absent _ missing] at hash
      exact (Option.map_eq_none_iff.mp hash.symm).symm
  · split
    case isTrue => exact Option.or_none
    case isFalse missing =>
      rw [absent _ missing] at level
      subst level
      exact lowered.symm

/-! ## Runs -/

theorem known_of_level {line : Line} {level : String} (given : line.options.level = some level) :
    levelNames.contains level = true := by
  obtain ⟨_, text?, _, lowered, known⟩ := give_entries line.choices
  obtain ⟨text, found, rfl⟩ := Option.map_eq_some_iff.mp (lowered.symm.trans given)
  exact known text found

theorem exists_listener {name : String}
    (known : (Listener.namedThresholds.lookup name).isSome = true) :
    ∃ listener, Listener.ofName name = .ok listener := by
  obtain ⟨threshold, found⟩ := Option.isSome_iff_exists.mp known
  exact ⟨⟨threshold, []⟩, by simp [Listener.ofName, found]⟩

theorem threshold_of_level {level : String} (known : levelNames.contains level = true) :
    (Listener.namedThresholds.lookup (Text.upperCase level)).isSome = true := by
  have all : ∀ level ∈ levelNames,
      (Listener.namedThresholds.lookup (Text.upperCase level)).isSome = true := by
    decide +kernel
  exact all level (List.contains_iff_mem.mp known)

def Options.levelName (options : Options) (settings : Settings) : String :=
  (options.level.map Text.upperCase).getD settings.logLevel

/-- Only the settings can bring in a level that is unknown. -/
theorem isSome_levelName_iff (line : Line) (settings : Settings) :
    (Listener.namedThresholds.lookup (line.options.levelName settings)).isSome = true ↔
      line.options.level.isSome = true ∨
        (Listener.namedThresholds.lookup settings.logLevel).isSome = true := by
  unfold Options.levelName
  cases given : line.options.level with
  | none => simp
  | some level => simpa using threshold_of_level (known_of_level given)

section
variable (line : Line) {environment : Environment} {settings : Settings}
  (built : Settings.build (.ofEnvironment environment) = .ok settings)
include built

theorem configure_of_built (options : Options) :
    configure options environment =
      (Listener.ofName (options.levelName settings)).map fun listener =>
        (options.hash.getD settings.defaultHash, listener, ⟨environment, some settings⟩) := by
  have found : (Session.start environment).settings = (.ok settings, ⟨environment, some settings⟩) :=
    Session.settings_of_built rfl built
  unfold Options.levelName
  simp only [configure, found, bind, Except.bind]
  cases Listener.ofName ((options.level.map Text.upperCase).getD settings.logLevel) <;> rfl

/-- A command line is understood, and whether the run goes as far as its file is a matter of the
level. -/
theorem start_of_built :
    start line.arguments environment =
      match Listener.ofName (line.options.levelName settings) with
      | .ok listener => .ok ⟨line.command, line.path, [],
          line.options.hash.getD settings.defaultHash, listener, ⟨environment, some settings⟩⟩
      | .error failure => .error (.escaped failure) := by
  have nonempty : line.arguments.isEmpty = false := by
    simp [Line.arguments]
  have named : Command.ofName? line.command.name = some line.command := by
    cases line.command <;> rfl
  simp only [start, nonempty, scanGroup_arguments, Except.mapError, bind, Except.bind, ofScan_line,
    named, startCommand, configure_of_built built, if_false, Bool.false_eq_true]
  cases Listener.ofName (line.options.levelName settings) with
  | error failure => rfl
  | ok listener =>
    simp only [Except.map, scan_operands, line.clean, if_false, Bool.false_eq_true]
    rfl

theorem start_line (known : (Listener.namedThresholds.lookup settings.logLevel).isSome = true) :
    ∃ listener, start line.arguments environment =
      .ok ⟨line.command, line.path, [], line.options.hash.getD settings.defaultHash, listener,
        ⟨environment, some settings⟩⟩ := by
  obtain ⟨listener, made⟩ := exists_listener ((isSome_levelName_iff line settings).mpr (.inr known))
  refine ⟨listener, ?_⟩
  rw [start_of_built line built, made]

end

end Inclusion.CommandLine
