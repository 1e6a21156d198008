import Soliscope.Proofs.Schema.Acceptance
import Soliscope.Settings.Load

/-! # Log levels

A log level is looked up twice, in two tables: settings look for it among the names of levels, and
the log among all its own names. The tables know the same levels (`entries_level_iff`), so that
exactly the names that settings accept can be applied (`setUp_returns_iff`). Loaded settings hold a
level that is accepted once more as it is, and sets the log to the number of its name
(`load_logLevel`).
-/

namespace Soliscope

namespace Verbosity

section Tables

/-- What is found in a table stands in it. -/
theorem mem_of_lookup {α : Type} {entries : List (String × α)} {name : String} {found : α}
    (isFound : entries.lookup name = some found) : (name, found) ∈ entries := by
  obtain ⟨before, after, rfl, -⟩ := List.lookup_eq_some_iff.mp isFound
  simp

/-- **The two tables know the same levels.** -/
theorem entries_level_iff {name : String} {number : Nat} :
    entries.lookup name = some (.level number) ↔ level? name = some number := by
  constructor
  · intro found
    have all : entries.all (fun entry => match entry.2 with
        | .level number => level? entry.1 == some number
        | _ => true) = true := by
      decide
    simpa using List.all_eq_true.mp all (name, .level number) (mem_of_lookup found)
  · intro found
    have all : levels.all (fun entry => entries.lookup entry.1 == some (.level entry.2)) = true := by
      decide
    simpa using List.all_eq_true.mp all (name, number) (mem_of_lookup found)

/-- Levels have their names in upper case. -/
theorem upper_of_level {name : String} {number : Nat} (isLevel : level? name = some number) :
    Text.upper name = name := by
  have all : levels.all (fun entry => Text.upper entry.1 == entry.1) = true := by
    decide +kernel
  simpa using List.all_eq_true.mp all (name, number) (mem_of_lookup isLevel)

end Tables

/-- A name is accepted in upper case if that names a level. -/
theorem accepted?_eq_some_iff {name level : String} :
    accepted? name = some level ↔ level = Text.upper name ∧ (level? level).isSome = true := by
  unfold accepted?
  dsimp only
  split
  · rename_i isLevel
    constructor
    · intro same
      cases same
      exact ⟨rfl, isLevel⟩
    · rintro ⟨rfl, -⟩
      rfl
  · rename_i other
    constructor
    · intro same
      cases same
    · rintro ⟨rfl, isLevel⟩
      exact (other isLevel).elim

/-- **What a name sets the log to**: the level of its upper case. -/
theorem apply_eq_ok_iff {name : String} {number : Nat} :
    apply name = .ok number ↔ level? (Text.upper name) = some number := by
  rw [← entries_level_iff, apply]
  cases entries.lookup (Text.upper name) with
  | none => exact iff_of_false (fun same => (by cases same)) (fun same => (by cases same))
  | some entry =>
      cases entry with
      | level found => simp
      | text value => simp
      | other shown => simp

/-- A log is set up at the number of the level, and requests at that of warnings. -/
theorem setUp_eq_ok_iff {name : String} {setup : LogSetup} :
    setUp name = .ok setup ↔
      level? (Text.upper name) = some setup.rootLevel ∧ setup.requestLevel = 30 ∧
        setup.formats = [recordFormat] := by
  rw [setUp, ← apply_eq_ok_iff]
  cases apply name with
  | error fault => simp [Except.map]
  | ok number =>
      obtain ⟨rootLevel, requestLevel, formats⟩ := setup
      simp [Except.map, eq_comm]

/-- **The names that can be applied are those that settings accept.** -/
theorem setUp_returns_iff {name : String} :
    (∃ setup, setUp name = .ok setup) ↔ ∃ level, accepted? name = some level := by
  simp only [setUp_eq_ok_iff, accepted?_eq_some_iff]
  constructor
  · rintro ⟨setup, isLevel, -⟩
    exact ⟨_, rfl, Option.isSome_of_eq_some isLevel⟩
  · rintro ⟨_, rfl, isLevel⟩
    obtain ⟨number, found⟩ := Option.isSome_iff_exists.mp isLevel
    exact ⟨⟨number, 30, [recordFormat]⟩, found, rfl, rfl⟩

/-- A level name that settings keep: it would be accepted as it is, and sets the log to the number
that it stands for. -/
structure IsApplicable (level : String) : Prop where
  kept : accepted? level = some level
  applied : ∃ setup, setUp level = .ok setup ∧ level? level = some setup.rootLevel

/-- A level that is accepted can be applied. -/
theorem isApplicable_of_accepted {name level : String} (accepted : accepted? name = some level) :
    IsApplicable level := by
  obtain ⟨-, isLevel⟩ := accepted?_eq_some_iff.mp accepted
  obtain ⟨number, found⟩ := Option.isSome_iff_exists.mp isLevel
  have same := upper_of_level found
  constructor
  · exact accepted?_eq_some_iff.mpr ⟨same.symm, isLevel⟩
  · refine ⟨⟨number, 30, [recordFormat]⟩, setUp_eq_ok_iff.mpr ⟨?_, rfl, rfl⟩, found⟩
    rw [same]
    exact found

end Verbosity

namespace Settings

open Soliscope.Schema

/-- The values in the environment, by lower-case name. -/
def Sources.environmentValues (sources : Sources) : List (String × Option String) :=
  lowered (sources.environment.map fun (name, value) => (name, some value))

/-- The values in the environment file, by lower-case name. -/
def Sources.fileValues (sources : Sources) : List (String × Option String) :=
  lowered (EnvFile.parse sources.environment sources.envFile)

/-- **The log level that is given**: by the first argument for it, or else by the environment, or
else by the environment file. -/
def Sources.givenLevel? (sources : Sources) : Option Json :=
  ((sources.arguments.find? fun entry => Text.lower entry.1 == "log_level").map Prod.snd).or
    (((sources.environmentValues.lookup "log_level").join.map Json.str).or
      ((sources.fileValues.lookup "log_level").join.map Json.str))

section Fields

/-- Where values are collected by name, each is found under its own name. -/
theorem lookup_filterMap {α : Type} (value? : String → Option α) (names : List String)
    (name : String) :
    (names.filterMap fun other => (value? other).map (other, ·)).lookup name =
      if name ∈ names then value? name else none := by
  induction names with
  | nil => rfl
  | cons other rest ih =>
      by_cases same : name = other
      · subst same
        cases found : value? name with
        | some value => simp [found]
        | none => simpa [found] using ih
      · have apart : (name == other) = false := beq_eq_false_iff_ne.mpr same
        cases found : value? other with
        | some value => simpa [found, List.lookup_cons, apart, same] using ih
        | none => simpa [found, same] using ih

/-- The value of a setting in a source, if it can be read. -/
def textValue? (source : TextSource) (values : List (String × Option String)) (name : String) :
    Option Json :=
  (values.lookup name).join.bind fun text => (textSetting source name text).toOption.join

/-- The settings of a source are those of the known names that have a value. -/
theorem settingsOf_eq_ok {source : TextSource} {values : List (String × Option String)}
    {fields : Fields} (read : settingsOf source values = .ok fields) :
    fields = names.filterMap fun name => (textValue? source values name).map (name, ·) := by
  obtain ⟨found, made, collected⟩ := bind_eq_ok.mp read
  cases collected
  have each : List.Forall₂ (fun name entry =>
      (textValue? source values name).map (name, ·) = entry) names found := by
    refine (mapM_eq_ok.mp made).imp fun name entry step => ?_
    unfold textValue?
    cases given : (values.lookup name).join with
    | none =>
        rw [given] at step
        cases step
        rfl
    | some text =>
        rw [given] at step
        obtain ⟨value, isRead, rest⟩ := bind_eq_ok.mp step
        cases rest
        rw [Option.bind_some, isRead]
        rfl
  rw [← List.forall₂_map_left_iff (R := Eq), List.forall₂_eq_eq_eq] at each
  rw [← each, List.filterMap_map]
  rfl

/-- The level of a source is the value that it has under this name. -/
theorem lookup_settingsOf {source : TextSource} {values : List (String × Option String)}
    {fields : Fields} (read : settingsOf source values = .ok fields) :
    fields.lookup "log_level" = (values.lookup "log_level").join.map Json.str := by
  rw [settingsOf_eq_ok read, lookup_filterMap, if_pos (by decide), textValue?]
  cases (values.lookup "log_level").join with
  | none => rfl
  | some text => rfl

/-- Among arguments the name counts in any case, and the first one decides. -/
theorem lookup_settingArguments (arguments : Fields) :
    (settingArguments arguments).lookup "log_level" =
      (arguments.find? fun entry => Text.lower entry.1 == "log_level").map Prod.snd := by
  have collected : settingArguments arguments = names.filterMap fun name =>
      ((arguments.find? fun entry => Text.lower entry.1 == name).map Prod.snd).map (name, ·) := by
    simp only [settingArguments, Option.map_map]
    rfl
  rw [collected, lookup_filterMap, if_pos (by decide)]

end Fields

/-- Settings that are read from fields have the log level of the fields. -/
theorem logLevel_of_read {fields : Fields} {settings : Settings}
    (accepted : read fields = .accepted settings) :
    defaulted "log_level" standard.logLevel readLogLevel fields = .accepted settings.logLevel := by
  obtain ⟨_, _, untilSourceTimeout, -, rfl⟩ := Validation.seq_eq_accepted.mp accepted
  obtain ⟨_, _, untilStatusTimeout, -, rfl⟩ := Validation.seq_eq_accepted.mp untilSourceTimeout
  obtain ⟨_, _, untilSubmitTimeout, -, rfl⟩ := Validation.seq_eq_accepted.mp untilStatusTimeout
  obtain ⟨_, _, untilSolcTimeout, -, rfl⟩ := Validation.seq_eq_accepted.mp untilSubmitTimeout
  obtain ⟨_, _, untilSolcBinary, -, rfl⟩ := Validation.seq_eq_accepted.mp untilSolcTimeout
  obtain ⟨_, _, untilLogLevel, -, rfl⟩ := Validation.seq_eq_accepted.mp untilSolcBinary
  obtain ⟨_, _, _, -, -, level, rfl⟩ := Validation.fmap_seq_seq_eq_accepted.mp untilLogLevel
  exact level

/-- A level is read from a text that names one. -/
theorem readLogLevel_eq_accepted {value : Json} {level : String} :
    readLogLevel value = .accepted level ↔
      ∃ name, value = .str name ∧ Verbosity.accepted? name = some level := by
  rw [readLogLevel, Validation.andThen_eq_accepted]
  simp only [text_eq_accepted]
  refine exists_congr fun name => and_congr_right fun _ => ?_
  cases Verbosity.accepted? name with
  | none => exact iff_of_false Validation.flawed_ne_accepted fun same => (by cases same)
  | some other => rw [Validation.accepted_inj, Option.some.injEq]

/-- Settings are loaded if they are accepted. -/
theorem toExcept_eq_ok {α : Type} {validation : Validation α} {value : α} :
    validation.toExcept.mapError LoadError.refused = .ok value ↔ validation = .accepted value := by
  cases validation with
  | accepted found =>
      rw [Validation.toExcept, mapError_ok, Except.ok.injEq, Validation.accepted_inj]
  | refused issues =>
      exact iff_of_false (fun same => (by cases same)) fun same => (by cases same)

/-- **Where the level of loaded settings comes from**: it is the standard level if none is given,
and otherwise read from what is given. -/
theorem logLevel_of_load {sources : Sources} {settings : Settings}
    (loaded : load sources = .ok settings) :
    (sources.givenLevel? = none ∧ settings.logLevel = standard.logLevel) ∨
      ∃ name, sources.givenLevel? = some (.str name) ∧
        Verbosity.accepted? name = some settings.logLevel := by
  obtain ⟨environment, isEnvironment, further⟩ := bind_eq_ok.mp loaded
  obtain ⟨envFile, isFile, validated⟩ := bind_eq_ok.mp further
  obtain ⟨_, _, isRead, -, rfl⟩ :=
    Validation.fmap_seq_eq_accepted.mp (toExcept_eq_ok.mp validated)
  have given : (settingArguments sources.arguments ++ environment ++ envFile).lookup "log_level" =
      sources.givenLevel? := by
    rw [List.lookup_append, List.lookup_append, lookup_settingArguments,
      lookup_settingsOf isEnvironment, lookup_settingsOf isFile, Option.or_assoc]
    rfl
  rw [← given]
  rcases defaulted_eq_accepted.mp (logLevel_of_read isRead) with ⟨missing, same⟩ | ⟨value, found, read⟩
  · exact Or.inl ⟨missing, same.symm⟩
  · obtain ⟨name, rfl, accepted⟩ := readLogLevel_eq_accepted.mp read
    exact Or.inr ⟨name, found, accepted⟩

/-- A name that is given was accepted where settings are loaded. -/
theorem accepted_of_load {sources : Sources} {settings : Settings} {name : String}
    (loaded : load sources = .ok settings) (given : sources.givenLevel? = some (.str name)) :
    Verbosity.accepted? name = some settings.logLevel := by
  rcases logLevel_of_load loaded with ⟨none, -⟩ | ⟨other, same, accepted⟩
  · rw [none] at given
    cases given
  · rw [given] at same
    cases same
    exact accepted

/-- Settings loaded from sources hold the level that is given, in upper case, and it can be applied.
Sources that give none of the levels are not loaded. -/
structure Sources.LoadsLevel (sources : Sources) : Prop where
  applicable : ∀ settings, load sources = .ok settings →
    Verbosity.IsApplicable settings.logLevel
  kept : ∀ settings name, load sources = .ok settings →
    sources.givenLevel? = some (.str name) → settings.logLevel = Text.upper name
  refused : ∀ name, sources.givenLevel? = some (.str name) →
    Verbosity.level? (Text.upper name) = none → ¬ ∃ settings, load sources = .ok settings

/-- **Loaded settings hold a level that the sources give.** -/
theorem loadsLevel (sources : Sources) : sources.LoadsLevel := by
  refine ⟨fun settings loaded => ?_, fun settings name loaded given => ?_, ?_⟩
  · rcases logLevel_of_load loaded with ⟨-, isStandard⟩ | ⟨name, -, accepted⟩
    · rw [isStandard]
      exact Verbosity.isApplicable_of_accepted (by decide +kernel : Verbosity.accepted? "INFO" = _)
    · exact Verbosity.isApplicable_of_accepted accepted
  · exact (Verbosity.accepted?_eq_some_iff.mp (accepted_of_load loaded given)).1
  · intro name given unknown ⟨settings, loaded⟩
    obtain ⟨isUpper, isLevel⟩ :=
      Verbosity.accepted?_eq_some_iff.mp (accepted_of_load loaded given)
    rw [isUpper, unknown] at isLevel
    cases isLevel

/-- The sources that give a log level only, as an argument. -/
def Sources.ofLevel (name : String) : Sources where
  arguments := [("log_level", .str name)]

theorem read_ofLevel (name : String) :
    read [("log_level", .str name)] =
      ((readLogLevel (.str name)).under (.name "log_level")).map fun level =>
        { standard with logLevel := level } := by
  have others {α : Type} {other : String} (apart : (other == "log_level") = false) (missing : α)
      (reader : Reader α) :
      defaulted other missing reader [("log_level", .str name)] = .accepted missing := by
    rw [defaulted, List.lookup_cons, apart]
    rfl
  have given : defaulted "log_level" standard.logLevel readLogLevel [("log_level", .str name)] =
      (readLogLevel (.str name)).under (.name "log_level") := by
    rw [defaulted, List.lookup_cons, beq_self_eq_true]
  unfold read
  rw [given, others (by decide), others (by decide), others (by decide), others (by decide),
    others (by decide), others (by decide), others (by decide), others (by decide)]
  cases readLogLevel (.str name) with
  | accepted level => rfl
  | refused issues => rfl

/-- A level alone loads the standard settings with it. -/
theorem load_ofLevel (name : String) :
    load (.ofLevel name) = match Verbosity.accepted? name with
      | some level => .ok { standard with logLevel := level }
      | none => .error (.refused
          [⟨[.name "log_level"], .refused ("Unknown log level: " ++ name)⟩]) := by
  have environment : settingsOf .environment (lowered []) = .ok [] := rfl
  have inFile : lowered (EnvFile.parse [] "") = [] := rfl
  have envFile : settingsOf .envFile [] = .ok [] := rfl
  have isLower : Text.lower "log_level" = "log_level" := by decide +kernel
  have setting : settingArguments [("log_level", .str name)] = [("log_level", .str name)] := by
    rw [settingArguments]
    simp only [List.find?_cons, isLower]
    rfl
  have known : unknownArguments [("log_level", .str name)] = [] := by
    rw [unknownArguments, List.filter_cons, isLower]
    rfl
  have loaded : load (.ofLevel name) =
      (((fun settings _ => settings) <$> read [("log_level", .str name)] <*>
        unknownNames []).toExcept).mapError .refused := by
    simp only [load, Sources.ofLevel, List.map_nil, environment, inFile, envFile, setting, known]
    rfl
  have isRead : readLogLevel (.str name) = match Verbosity.accepted? name with
      | some level => .accepted level
      | none => .flawed (.refused ("Unknown log level: " ++ name)) := rfl
  rw [loaded, read_ofLevel, isRead]
  cases Verbosity.accepted? name with
  | some level => rfl
  | none => rfl

/-- **The log level of loaded settings can be applied**, and a text that is no level in upper case
is not loaded. By itself, a level is accepted or refused with its name as it was given. -/
theorem load_logLevel :
    (∀ sources : Sources, sources.LoadsLevel) ∧
    ∀ name : String,
      ((Verbosity.level? (Text.upper name)).isSome = true →
        load (.ofLevel name) = .ok { standard with logLevel := Text.upper name }) ∧
      (Verbosity.level? (Text.upper name) = none →
        load (.ofLevel name) = .error (.refused
          [⟨[.name "log_level"], .refused ("Unknown log level: " ++ name)⟩])) := by
  refine ⟨loadsLevel, fun name => ⟨fun isLevel => ?_, fun unknown => ?_⟩⟩
  · have accepted := Verbosity.accepted?_eq_some_iff.mpr ⟨rfl, isLevel⟩
    rw [load_ofLevel, accepted]
  · have refused : Verbosity.accepted? name = none := by
      rw [Verbosity.accepted?, unknown]
      rfl
    rw [load_ofLevel, refused]

/-- Sources that all give a level, each in another spelling; the one of the arguments has a letter
beyond ASCII. -/
def spelledSources : Sources where
  arguments := [("Log_Level", .str "ınfo")]
  environment := [("LOG_LEVEL", "Warn")]
  envFile := "log_level=fatal"

/-- The theorem at these sources, and at a level by itself that is none. -/
theorem load_logLevel_spelledSources :
    spelledSources.givenLevel? = some (.str "ınfo") ∧
    (∃ settings, load spelledSources = .ok settings ∧ settings.logLevel = "INFO" ∧
      Verbosity.IsApplicable settings.logLevel) ∧
    Verbosity.level? (Text.upper "BASIC_FORMAT") = none ∧
    load (.ofLevel "BASIC_FORMAT") = .error (.refused
      [⟨[.name "log_level"], .refused "Unknown log level: BASIC_FORMAT"⟩]) := by
  have unknown : Verbosity.level? (Text.upper "BASIC_FORMAT") = none := by decide +kernel
  have level : (load spelledSources).toOption.map Settings.logLevel = some "INFO" := by
    decide +kernel
  refine ⟨by rfl, ?_, unknown, (load_logLevel.2 "BASIC_FORMAT").2 unknown⟩
  cases loaded : load spelledSources with
  | error fault =>
      rw [loaded] at level
      cases level
  | ok settings =>
      rw [loaded] at level
      exact ⟨settings, rfl, Option.some.inj level,
        (load_logLevel.1 spelledSources).applicable settings loaded⟩

end Settings

end Soliscope
