import ShaderBindings.Options

/-
  Arguments in groups. A path stands alone, and so does the
  option for strict mode; every other option stands in front
  of its value, which may be any text. Arguments are read
  group by group, so the order of different sorts of groups
  does not matter, and of one option the last value counts.

  Key definitions include:
    * `ValuedOption`
    * `ArgumentGroup`
    * `ArgumentGroup.apply`
    * `Config.IsSpelledBy`
    * `Command.Reads`

  Key theorems include:
    * `ArgumentGroup.parseFrom_arguments`
    * `ArgumentGroup.parseFrom_groups`
    * `ArgumentGroup.exists_explain_of_parseFrom`
    * `ArgumentGroup.get_groups`
    * `Command.parse_reads_groups`
-/

------------------------------------------------------------
-- Options with a Value
------------------------------------------------------------

namespace ShaderBindings

/- An option that is followed by its value. -/
inductive ValuedOption where
| outDir
| module
| runtime
deriving DecidableEq, Repr

namespace ValuedOption

/- The argument that stands for an option. -/
def word : ValuedOption → String
| .outDir => "--out-dir"
| .module => "--module"
| .runtime => "--runtime"

/- What is wrong with an option at the very end. -/
def missing : ValuedOption → UsageError
| .outDir => .missingDirectory
| .module => .missingName
| .runtime => .missingCratePath

/- A configuration with a new value for an option. -/
def set
    (config : Config)
    (value : String) : ValuedOption → Config
| .outDir => { config with outDir := some ⟨value⟩ }
| .module =>
    { config with
      names := { config.names with module := value } }
| .runtime =>
    { config with
      names := { config.names with runtime := value } }

/- The value of an option in a configuration, if it has one. -/
def get (config : Config) : ValuedOption → Option String
| .outDir => config.outDir.map Path.text
| .module => some config.names.module
| .runtime => some config.names.runtime

/- Only the option that is set has a new value. -/
theorem get_set
    (config : Config)
    (value : String)
    (option other : ValuedOption) :
    other.get (option.set config value) =
      if option = other then some value
      else other.get config := by
  cases option <;> cases other <;> rfl

/- Setting an option leaves the rest as it is. -/
theorem rest_set
    (config : Config)
    (value : String)
    (option : ValuedOption) :
    (option.set config value).paths = config.paths ∧
      (option.set config value).strict = config.strict := by
  cases option <;> exact ⟨rfl, rfl⟩

/- The paths are none of the options. -/
theorem get_with_paths
    (config : Config)
    (paths : List Path)
    (option : ValuedOption) :
    option.get { config with paths } = option.get config := by
  cases option <;> rfl

end ValuedOption

/- A configuration is its paths, its mode and its options. -/
theorem Config.eq_of_get
    {config other : Config}
    (hPaths : config.paths = other.paths)
    (hStrict : config.strict = other.strict)
    (hOptions :
      ∀ option : ValuedOption,
        option.get config = option.get other) :
    config = other := by
  rcases config with ⟨paths, outDir, strict, module, runtime⟩
  rcases other with
    ⟨paths', outDir', strict', module', runtime'⟩
  have hOutDir : outDir = outDir' := by
    refine Option.map_injective ?_ (hOptions .outDir)
    rintro ⟨text⟩ ⟨other⟩ rfl
    rfl
  have hModule : module = module' :=
    Option.some.inj (hOptions .module)
  have hRuntime : runtime = runtime' :=
    Option.some.inj (hOptions .runtime)
  cases hPaths
  cases hStrict
  rw [hOutDir, hModule, hRuntime]

end ShaderBindings

------------------------------------------------------------
-- Groups of Arguments
------------------------------------------------------------

namespace ShaderBindings

/- Arguments that belong together. -/
inductive ArgumentGroup where
| path (typed : String)
| strict
| valued (option : ValuedOption) (value : String)
deriving DecidableEq, Repr

namespace ArgumentGroup

/- The arguments of a group. -/
def arguments : ArgumentGroup → List String
| .path typed => [typed]
| .strict => ["--strict"]
| .valued option value => [option.word, value]

/- What a group adds to a configuration. -/
def apply (config : Config) : ArgumentGroup → Config
| .path typed =>
    { config with paths := config.paths ++ [cleanPath typed] }
| .strict => { config with strict := true }
| .valued option value => option.set config value

/- The path of a group, as it is typed. -/
def path? : ArgumentGroup → Option String
| .path typed => some typed
| _ => none

/- The value that a group has for an option. -/
def value?
    (option : ValuedOption) : ArgumentGroup → Option String
| .valued other value =>
    if other = option then some value else none
| _ => none

/-
  An argument that is taken for a path: it looks like no
  long option and does not ask for help.
-/
def IsPathArgument (typed : String) : Prop :=
  isOption typed = false ∧ typed ≠ "-h"

/- What is typed for a path is taken for one. -/
def IsReadable (group : ArgumentGroup) : Prop :=
  ∀ typed, group.path? = some typed → IsPathArgument typed

end ArgumentGroup

end ShaderBindings

------------------------------------------------------------
-- Reading Groups
------------------------------------------------------------

namespace ShaderBindings

namespace ArgumentGroup

open Command

/- A path is none of the words of options. -/
theorem IsPathArgument.ne_option
    {typed word : String}
    (hTyped : IsPathArgument typed)
    (hWord : isOption word = true) :
    typed ≠ word := by
  rintro rfl
  rw [hTyped.1] at hWord
  cases hWord

/- A path is added to the paths. -/
theorem parseFrom_path
    {typed : String}
    (hTyped : IsPathArgument typed)
    (config : Config)
    (rest : List String) :
    parseFrom config (typed :: rest) =
      parseFrom ((path typed).apply config) rest := by
  have hOther (word : String) (hWord : isOption word = true) :
      typed ≠ word :=
    hTyped.ne_option hWord
  have hHelp : ¬ (typed = "-h" ∨ typed = "--help") :=
    not_or.mpr ⟨hTyped.2, hOther "--help" rfl⟩
  have hNoOption : ¬ isOption typed = true := by
    rw [hTyped.1]
    exact Bool.false_ne_true
  rw [parseFrom.eq_def]
  simp only [if_neg hHelp, if_neg hNoOption,
    if_neg (hOther "--strict" rfl),
    if_neg (hOther "--out-dir" rfl),
    if_neg (hOther "--module" rfl),
    if_neg (hOther "--runtime" rfl)]
  rfl

/- A group is read at once. -/
theorem parseFrom_arguments
    {group : ArgumentGroup}
    (hReadable : group.IsReadable)
    (config : Config)
    (rest : List String) :
    parseFrom config (group.arguments ++ rest) =
      parseFrom (group.apply config) rest := by
  cases group with
  | path typed =>
      exact parseFrom_path (hReadable typed rfl) config rest
  | strict =>
      rw [arguments, List.singleton_append, parseFrom.eq_def]
      rfl
  | valued option value =>
      rw [arguments, List.cons_append, List.singleton_append,
        parseFrom.eq_def]
      cases option <;> rfl

/- Groups are read one after the other. -/
theorem parseFrom_groups
    {groups : List ArgumentGroup}
    (hReadable : ∀ group ∈ groups, group.IsReadable)
    (config : Config)
    (rest : List String) :
    parseFrom config
        (groups.flatMap ArgumentGroup.arguments ++ rest) =
      parseFrom (groups.foldl apply config) rest := by
  induction groups generalizing config with
  | nil => rfl
  | cons group others ih =>
      have hOthers :
          ∀ other ∈ others, other.IsReadable :=
        fun other hOther =>
          hReadable other (List.mem_cons_of_mem group hOther)
      rw [List.flatMap_cons, List.append_assoc,
        parseFrom_arguments
          (hReadable group List.mem_cons_self),
        ih hOthers, List.foldl_cons]

/-
  Arguments that are groups, which lead from one
  configuration to another.
-/
structure Explain
    (groups : List ArgumentGroup)
    (config : Config)
    (typed : List String)
    (done : Config) : Prop where
  readable : ∀ group ∈ groups, group.IsReadable
  spelled : typed = groups.flatMap ArgumentGroup.arguments
  applied : groups.foldl apply config = done

/- A group in front of groups. -/
theorem Explain.cons
    (group : ArgumentGroup)
    (hReadable : group.IsReadable)
    {config done : Config}
    {rest : List String}
    (hRest :
      ∃ others,
        Explain others (group.apply config) rest done) :
    ∃ groups,
      Explain groups config (group.arguments ++ rest) done := by
  rcases hRest with ⟨others, hOthers, rfl, hDone⟩
  exact ⟨group :: others,
    { readable :=
        List.forall_mem_cons.mpr ⟨hReadable, hOthers⟩
      spelled := rfl
      applied := hDone }⟩

/- A group without a path is always readable. -/
theorem IsReadable.of_no_path
    {group : ArgumentGroup}
    (hGroup : group.path? = none) :
    group.IsReadable := by
  intro typed hTyped
  rw [hGroup] at hTyped
  cases hTyped

/-
  Arguments that lead to a run are made of groups. The
  induction follows the reading of the arguments, and each
  argument that does not end it starts a group.
-/
theorem exists_explain_of_parseFrom
    {config done : Config}
    {typed : List String}
    (hParse : parseFrom config typed = .ok (.run done)) :
    ∃ groups, Explain groups config typed done := by
  fun_induction parseFrom config typed with
  | case1 config =>
      cases hParse
      exact ⟨[], by simp, rfl, rfl⟩
  | case2 => cases hParse
  | case3 config rest _ ih =>
      exact Explain.cons .strict
        (.of_no_path rfl) (ih hParse)
  | case4 => cases hParse
  | case5 config value rest _ _ ih =>
      exact Explain.cons (.valued .outDir value)
        (.of_no_path rfl) (ih hParse)
  | case6 => cases hParse
  | case7 config value rest _ _ _ ih =>
      exact Explain.cons (.valued .module value)
        (.of_no_path rfl) (ih hParse)
  | case8 => cases hParse
  | case9 config value rest _ _ _ _ ih =>
      exact Explain.cons (.valued .runtime value)
        (.of_no_path rfl) (ih hParse)
  | case10 => cases hParse
  | case11 config typed rest hHelp _ _ _ _ hNoOption ih =>
      have hReadable : (path typed).IsReadable := by
        rintro word ⟨⟩
        exact ⟨Bool.eq_false_iff.mpr hNoOption,
          (not_or.mp hHelp).1⟩
      exact Explain.cons (path typed) hReadable (ih hParse)

end ArgumentGroup

end ShaderBindings

------------------------------------------------------------
-- What Groups Add
------------------------------------------------------------

namespace ShaderBindings

namespace ArgumentGroup

/- The paths of groups are added in order. -/
theorem paths_groups
    (groups : List ArgumentGroup)
    (config : Config) :
    (groups.foldl apply config).paths =
      config.paths ++
        (groups.filterMap path?).map cleanPath := by
  induction groups generalizing config with
  | nil => simp
  | cons group others ih =>
      rw [List.foldl_cons, ih]
      cases group with
      | path typed => simp [apply, path?]
      | strict => rfl
      | valued option value =>
          rw [apply, (option.rest_set config value).1]
          rfl

/- Strict mode is never left. -/
theorem strict_groups
    (groups : List ArgumentGroup)
    (config : Config) :
    (groups.foldl apply config).strict = true ↔
      config.strict = true ∨ .strict ∈ groups := by
  induction groups generalizing config with
  | nil => simp
  | cons group others ih =>
      rw [List.foldl_cons, ih]
      cases group with
      | path typed => simp [apply]
      | strict => simp [apply]
      | valued option value =>
          rw [apply, (option.rest_set config value).2]
          simp

/- Of one option the last value counts. -/
theorem get_groups
    (groups : List ArgumentGroup)
    (config : Config)
    (option : ValuedOption) :
    option.get (groups.foldl apply config) =
      (groups.filterMap (value? option)).getLast?.or
        (option.get config) := by
  induction groups generalizing config with
  | nil => rfl
  | cons group others ih =>
      rw [List.foldl_cons, ih]
      cases group with
      | path typed => cases option <;> rfl
      | strict => cases option <;> rfl
      | valued other value =>
          rw [apply, ValuedOption.get_set, List.filterMap_cons,
            value?]
          by_cases hOption : other = option
          · rw [if_pos hOption, if_pos hOption,
              List.getLast?_cons]
            cases (others.filterMap
              (value? option)).getLast? <;> rfl
          · rw [if_neg hOption, if_neg hOption]

/- Groups add to whatever paths there are before them. -/
theorem groups_with_paths
    (groups : List ArgumentGroup)
    (config : Config)
    (paths : List Path) :
    groups.foldl apply { config with paths } =
      { groups.foldl apply config with
        paths :=
          paths ++ (groups.filterMap path?).map cleanPath } := by
  apply Config.eq_of_get
  · rw [paths_groups]
  · rw [Bool.eq_iff_iff, strict_groups]
    exact (strict_groups groups config).symm
  · intro option
    rw [get_groups, ValuedOption.get_with_paths, ← get_groups]
    exact (option.get_with_paths _ _).symm

end ArgumentGroup

end ShaderBindings

------------------------------------------------------------
-- Spelled Configurations
------------------------------------------------------------

namespace ShaderBindings

/-
  The groups spell a configuration: they have its paths in
  order, the option for strict mode at least once or never,
  and of every other option the last value, where an option
  without a value has the one of the standard.
-/
structure Config.IsSpelledBy
    (config : Config)
    (groups : List ArgumentGroup) : Prop where
  paths :
    groups.filterMap ArgumentGroup.path? =
      config.paths.map Path.text
  strict : .strict ∈ groups ↔ config.strict = true
  options :
    ∀ option : ValuedOption,
      (groups.filterMap
          (ArgumentGroup.value? option)).getLast?.or
        (option.get .standard) =
      option.get config

/-
  A path that can be typed as it is. It is an argument for
  a path, and there is nothing to clean.
-/
structure Path.IsTypable (path : Path) : Prop where
  clean : cleanPath path.text = path
  argument : ArgumentGroup.IsPathArgument path.text

namespace Config.IsSpelledBy

open ArgumentGroup

variable {config : Config}
variable {groups : List ArgumentGroup}

/- Groups of paths that can be typed are readable. -/
theorem readable
    (hSpelled : config.IsSpelledBy groups)
    (hPaths : ∀ path ∈ config.paths, path.IsTypable) :
    ∀ group ∈ groups, group.IsReadable := by
  intro group hGroup typed hTyped
  have hMem : typed ∈ config.paths.map Path.text := by
    rw [← hSpelled.paths]
    exact List.mem_filterMap.mpr ⟨group, hGroup, hTyped⟩
  rcases List.mem_map.mp hMem with ⟨path, hPath, rfl⟩
  exact (hPaths path hPath).argument

/- The groups lead to the configuration they spell. -/
theorem applied
    (hSpelled : config.IsSpelledBy groups)
    (hPaths : ∀ path ∈ config.paths, path.IsTypable) :
    groups.foldl apply .standard = config := by
  have hClean :
      (config.paths.map Path.text).map cleanPath =
        config.paths := by
    rw [List.map_map]
    refine (List.map_congr_left ?_).trans
      (List.map_id config.paths)
    exact fun path hPath => (hPaths path hPath).clean
  apply Config.eq_of_get
  · rw [paths_groups, hSpelled.paths, hClean]
    rfl
  · rw [Bool.eq_iff_iff, strict_groups, ← hSpelled.strict]
    simp [Config.standard]
  · intro option
    rw [get_groups, hSpelled.options]

/- What follows the groups is read on top of them. -/
theorem parse_append
    (hSpelled : config.IsSpelledBy groups)
    (hPaths : ∀ path ∈ config.paths, path.IsTypable)
    (rest : List String) :
    Command.parse
        (groups.flatMap ArgumentGroup.arguments ++ rest) =
      Command.parseFrom config rest := by
  rw [Command.parse,
    parseFrom_groups (hSpelled.readable hPaths),
    hSpelled.applied hPaths]

end Config.IsSpelledBy

end ShaderBindings

------------------------------------------------------------
-- Reading Configurations
------------------------------------------------------------

namespace ShaderBindings

namespace Command

/- The long options that there are. -/
def longOptions : List String :=
  ["--help", "--strict", "--out-dir", "--module", "--runtime"]

/- A request for help ends the reading. -/
theorem parseFrom_help
    (config : Config)
    {word : String}
    (hWord : word ∈ ["-h", "--help"])
    (tail : List String) :
    parseFrom config (word :: tail) = .ok .help := by
  have hHelp : word = "-h" ∨ word = "--help" := by
    simpa using hWord
  rw [parseFrom.eq_def]
  exact if_pos hHelp

/- An option that there is not ends the reading. -/
theorem parseFrom_unknown
    (config : Config)
    {option : String}
    (hOption : isOption option = true)
    (hUnknown : option ∉ longOptions)
    (tail : List String) :
    parseFrom config (option :: tail) =
      .error (.unknownOption option) := by
  have hShort : option ≠ "-h" := by
    rintro rfl
    cases hOption
  simp only [longOptions, List.mem_cons, not_or] at hUnknown
  rw [parseFrom.eq_def]
  simp only [hShort, hUnknown, hOption, or_self, if_true,
    if_false]

/- An option without its value is an error. -/
theorem parseFrom_missing
    (config : Config)
    (option : ValuedOption) :
    parseFrom config [option.word] =
      .error option.missing := by
  cases option <;> rfl

/-
  Arguments are read as a configuration. What follows them
  can still ask for help, and it can go wrong.
-/
structure Reads
    (config : Config)
    (typed : List String) : Prop where
  run : parse typed = .ok (.run config)
  help :
    ∀ word ∈ ["-h", "--help"],
      ∀ tail, parse (typed ++ word :: tail) = .ok .help
  unknown :
    ∀ option,
      isOption option = true →
        option ∉ longOptions →
          ∀ tail,
            parse (typed ++ option :: tail) =
              .error (.unknownOption option)
  missing :
    ∀ option : ValuedOption,
      parse (typed ++ [option.word]) = .error option.missing

/-
  A configuration is read from all the groups that spell it,
  in whatever order the different sorts of groups come.
-/
theorem parse_reads_groups
    (config : Config)
    (groups : List ArgumentGroup)
    (hPaths : ∀ path ∈ config.paths, path.IsTypable)
    (hSpelled : config.IsSpelledBy groups) :
    Reads config
      (groups.flatMap ArgumentGroup.arguments) := by
  have hAppend (rest : List String) :
      parse (groups.flatMap ArgumentGroup.arguments ++ rest) =
        parseFrom config rest :=
    hSpelled.parse_append hPaths rest
  constructor
  case run =>
    rw [← List.append_nil (groups.flatMap _), hAppend]
    rfl
  case help =>
    intro word hWord tail
    rw [hAppend, parseFrom_help config hWord]
  case unknown =>
    intro option hOption hUnknown tail
    rw [hAppend, parseFrom_unknown config hOption hUnknown]
  case missing =>
    intro option
    rw [hAppend, parseFrom_missing]

/- Two paths, strict mode, and values that look like options. -/
def mixedConfig : Config where
  paths := [⟨"a b.vert"⟩, ⟨"-x"⟩]
  outDir := some ⟨"--strict"⟩
  strict := true
  names := { BindingOptions.standard with module := "--help" }

/- A spelling in a mixed order, where options are repeated. -/
def mixedGroups : List ArgumentGroup := [
  .valued .outDir "old", .path "a b.vert", .strict,
  .valued .module "--help", .valued .outDir "--strict",
  .path "-x", .strict]

/- A configuration is read from a spelling in mixed order. -/
theorem parse_reads_mixed_groups :
    (∀ path ∈ mixedConfig.paths, path.IsTypable) ∧
      mixedConfig.IsSpelledBy mixedGroups ∧
      Reads mixedConfig
        ["--out-dir", "old", "a b.vert", "--strict",
          "--module", "--help", "--out-dir", "--strict",
          "-x", "--strict"] := by
  have hFirst : Path.IsTypable ⟨"a b.vert"⟩ :=
    ⟨by decide, by decide, by decide⟩
  have hSecond : Path.IsTypable ⟨"-x"⟩ :=
    ⟨by decide, by decide, by decide⟩
  have hPaths :
      ∀ path ∈ mixedConfig.paths, path.IsTypable :=
    List.forall_mem_cons.mpr
      ⟨hFirst, List.forall_mem_singleton.mpr hSecond⟩
  have hSpelled : mixedConfig.IsSpelledBy mixedGroups := {
    paths := rfl
    strict := by decide
    options := by
      intro option
      cases option <;> decide }
  exact ⟨hPaths, hSpelled,
    parse_reads_groups mixedConfig mixedGroups hPaths
      hSpelled⟩

end Command

end ShaderBindings
