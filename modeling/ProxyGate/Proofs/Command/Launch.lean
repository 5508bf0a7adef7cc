import ProxyGate.Proofs.Server.Startup

/-!
# What `--listen` replaces

A launch with listeners of its own puts them in place of the file's.  There are three groups.

* The options.  Every choice of options can be given: `parse_arguments` reads back the arguments
  that spell them.
* The configuration that is run.  `apply_eq` says what the options make of a file, and
  `apply_setListeners` that nothing of the replaced listeners is left in it.
* The launch.  The file is accepted by itself before anything in it is replaced, so a file with
  problems is refused for them.  `ofArguments_eq` is the launch as one equation, and
  `listen_replaces_listeners` compares two files.
-/

namespace ProxyGate

/-! ## The options -/

namespace Command

/-- The argument that gives a value to a long option. -/
def OptionSpec.argument (spec : OptionSpec) (value : String) : String :=
  String.ofList ('-' :: '-' :: (spec.long.toList ++ '=' :: value.toList))

theorem cutEquals_append {name : List Char} (h : '=' ∉ name) (value : List Char) :
    cutEquals (name ++ '=' :: value) = (String.ofList name, some (String.ofList value)) := by
  have hname : ∀ c ∈ name, decide (c ≠ '=') = true := by
    intro c hc
    exact decide_eq_true fun heq => h (heq ▸ hc)
  rw [cutEquals, List.dropWhile_append_of_pos hname, List.takeWhile_append_of_pos hname]
  simp

/-- An option that one argument can name. -/
structure OptionSpec.IsNamed (specs : List OptionSpec) (spec : OptionSpec) : Prop where
  found : specs.find? (·.long = spec.long) = some spec
  plain : '=' ∉ spec.long.toList
  notHelp : spec.long ≠ "help"

theorem readOption_argument {specs : List OptionSpec} {spec : OptionSpec}
    (h : spec.IsNamed specs) (value : String) :
    readOption specs (spec.argument value).toList = .ok (spec, some value) := by
  rw [OptionSpec.argument, String.toList_ofList, readOption, cutEquals_append h.plain]
  simp only [String.ofList_toList, if_neg h.notHelp, h.found]

/-- A value in one argument is taken when it may be given. -/
theorem scan_argument {specs : List OptionSpec} {spec : OptionSpec} (h : spec.IsNamed specs)
    {given next : Given} {value : String} (hgive : give given spec value = .ok next)
    (rest : List String) :
    scan specs given (spec.argument value :: rest) = scan specs next rest := by
  have hne : spec.argument value ≠ "--" := by
    rw [OptionSpec.argument]
    intro heq
    have hchars := congrArg String.toList heq
    rw [String.toList_ofList] at hchars
    simp at hchars
  have hlooks : looksLikeOption (spec.argument value) = true := by
    rw [looksLikeOption, OptionSpec.argument, String.toList_ofList]
    rfl
  rw [scan, if_neg hne, if_pos hlooks, readOption_argument h]
  simp only [hgive]

/-- Values that were given to an option. -/
def OptionSpec.given (spec : OptionSpec) (values : List String) : Given :=
  values.map fun value => (spec.long, value)

namespace Given

@[simp] theorem values_append (given more : Given) (long : String) :
    (given ++ more : Given).values long = given.values long ++ more.values long := by
  rw [values, List.filter_append, List.map_append]
  rfl

/-- What was given to an option is found under its name and under no other. -/
@[simp] theorem values_given (spec : OptionSpec) (values : List String) (long : String) :
    (spec.given values).values long = if spec.long = long then values else [] := by
  rw [Given.values, OptionSpec.given, List.filter_map, List.map_map]
  split_ifs with h <;> simp [Function.comp_def, h]

end Given

/-- Values of an option that repeats are taken one after the other. -/
theorem scan_map_argument {specs : List OptionSpec} {spec : OptionSpec} (h : spec.IsNamed specs)
    (hrepeats : spec.repeats = true) {values : List String}
    (haccepts : ∀ value ∈ values, spec.accepts value = true) (given : Given) (rest : List String) :
    scan specs given (values.map spec.argument ++ rest) =
      scan specs (given ++ spec.given values) rest := by
  -- each value is added to those given before, which are general for this reason
  induction values generalizing given with
  | nil => rw [OptionSpec.given, List.map_nil, List.map_nil, List.append_nil, List.nil_append]
  | cons value values ih =>
    rw [List.forall_mem_cons] at haccepts
    have hgive : give given spec value = .ok (given ++ [(spec.long, value)]) :=
      if_pos ⟨haccepts.1, .inl hrepeats⟩
    rw [List.map_cons, List.cons_append, scan_argument h hgive, ih haccepts.2, List.append_assoc]
    rfl

/-- An option that does not repeat is taken the first time. -/
theorem scan_toList_argument {specs : List OptionSpec} {spec : OptionSpec} (h : spec.IsNamed specs)
    {value? : Option String} (haccepts : ∀ value ∈ value?, spec.accepts value = true)
    {given : Given} (hnew : given.value? spec.long = none) (rest : List String) :
    scan specs given (value?.toList.map spec.argument ++ rest) =
      scan specs (given ++ spec.given value?.toList) rest := by
  cases value? with
  | none =>
    rw [OptionSpec.given, Option.toList_none, List.map_nil, List.map_nil, List.append_nil,
      List.nil_append]
  | some value =>
    have hgive : give given spec value = .ok (given ++ [(spec.long, value)]) :=
      if_pos ⟨haccepts value rfl, .inr (Option.isNone_iff_eq_none.mpr hnew)⟩
    exact scan_argument h hgive rest

namespace LaunchOptions

/-- The option `--config`. -/
def configSpec : OptionSpec :=
  { long := "config", short := some 'c', accepts := fun value => value ≠ "" }

/-- The option `--listen`. -/
def listenSpec : OptionSpec := { long := "listen", short := some 'l', repeats := true }

/-- The option `--log-level`. -/
def levelSpec : OptionSpec := { long := "log-level" }

theorem isNamed_of_mem {spec : OptionSpec} (h : spec ∈ [configSpec, listenSpec, levelSpec]) :
    spec.IsNamed specs := by
  rw [List.mem_cons, List.mem_cons, List.mem_singleton] at h
  rcases h with rfl | rfl | rfl <;> exact ⟨rfl, by decide, by decide⟩

/-- Arguments that spell the options. -/
def arguments (options : LaunchOptions) : List String :=
  options.listen.map listenSpec.argument ++
    (options.config.toList.map configSpec.argument ++
      (options.logLevel.toList.map levelSpec.argument ++ []))

/-- All options can be given, but for a file without a name. -/
theorem parse_arguments {options : LaunchOptions} (h : options.config ≠ some "") :
    parse options.arguments = .ok options := by
  have hpath : ∀ path ∈ options.config, configSpec.accepts path = true := by
    intro path hpath
    exact decide_eq_true fun heq => h (heq ▸ hpath)
  have hscan : scan specs [] options.arguments =
      .ok (listenSpec.given options.listen ++ configSpec.given options.config.toList ++
        levelSpec.given options.logLevel.toList, ⟨[], false⟩) := by
    rw [arguments, scan_map_argument (isNamed_of_mem (by simp)) rfl (fun _ _ => rfl),
      scan_toList_argument (isNamed_of_mem (by simp)) hpath,
      scan_toList_argument (isNamed_of_mem (by simp)) (fun _ _ => rfl)]
    · rfl
    · simp [Given.value?, listenSpec, configSpec, levelSpec]
    · simp [Given.value?, listenSpec, configSpec]
  simp [parse, scanAll, hscan, Given.value?, listenSpec, configSpec, levelSpec]

end LaunchOptions

end Command

/-! ## Files -/

namespace Config

/-- The configuration in a file, problems or none. -/
def ofFile? (file : Option Bytes) : Option Config := do
  decode? (← Bytes.text? (← file))

theorem accept_eq (config : Config) :
    config.accept =
      if config.problems = [] then .ok config else .error (.invalid config.problems) := by
  rw [accept, validate]
  split_ifs <;> rfl

/-- A file with a configuration is loaded when the configuration is accepted. -/
theorem load_eq_accept {file : Option Bytes} {config : Config} (h : ofFile? file = some config) :
    load file = config.accept := by
  obtain ⟨content, rfl, h⟩ := Option.bind_eq_some_iff.mp h
  obtain ⟨source, hsource, hdecode⟩ := Option.bind_eq_some_iff.mp h
  rw [load, hsource]
  dsimp only
  rw [parse, hdecode]

end Config

namespace Command

/-! ## The configuration that is run -/

namespace LaunchOptions

/-- With listeners of their own, the options keep the rest of a configuration and may set the level
of its log. -/
theorem apply_eq {options : LaunchOptions} (h : options.listen ≠ []) (config : Config) :
    options.apply config =
      { listeners := options.listen.map fun bindAddress => { bindAddress }
        headerTimeout := config.headerTimeout
        observability :=
          { config.observability with
            logLevel := options.logLevel.getD config.observability.logLevel } } := by
  rw [apply, if_neg h]
  cases options.logLevel with
  | none => rfl
  | some logLevel => rfl

/-- Nothing is left of the listeners that were replaced. -/
theorem apply_setListeners {options : LaunchOptions} (h : options.listen ≠ []) (config : Config)
    (listeners : List Config.Listener) :
    options.apply { config with listeners } = options.apply config := by
  rw [apply_eq h, apply_eq h]

end LaunchOptions

/-- What a listener is like that a text stands for: it has the default limit, and demands headers
exactly when the text ends in the marker. -/
structure StandsFor (text : String) (listener : Config.Listener) : Prop where
  address : listener.bindAddress = text
  limit : listener.maxConnections = ({} : Config.Listener).maxConnections
  policy : ∀ binding, listener.resolve = .ok binding →
    (binding.policy = .required ↔ ∃ kept, text = kept ++ "|P")

theorem standsFor_plain (bindAddress : String) : StandsFor bindAddress { bindAddress } := by
  refine ⟨rfl, rfl, fun binding hresolve => ?_⟩
  rw [Config.Listener.policy_eq_required_iff hresolve, Config.Listener.Demands,
    BindAddress.marker_suffix_iff]
  exact or_iff_right Bool.false_ne_true

/-! ## The launch -/

namespace Launch

/-- A launch that comes down to a configuration: it runs, or its problems are reported. -/
def ofConfig (config : Config) : Launch :=
  if config.problems = [] then .running config else .failed (.noConfig (.invalid config.problems))

section

variable {arguments : List String} {options : LaunchOptions} {path : String}
  {readFile : String → Option Bytes} {config : Config}

/-- A launch comes down to the configuration that it would accept. -/
theorem ofArguments_of_effective (hparse : LaunchOptions.parse arguments = .ok options)
    (heffective : options.effective readFile = config.accept) :
    ofArguments readFile arguments = ofConfig config := by
  rw [ofArguments, hparse]
  dsimp only
  rw [heffective, Config.accept_eq, ofConfig]
  split_ifs with hproblems
  · dsimp only
    -- a configuration without problems is never refused for its listeners
    have hstarts := Server.bindings_ne_error_of_validate (Config.validate_eq_ok_iff.mpr hproblems)
    cases hbindings : Server.bindings config with
    | error fault => exact absurd hbindings (hstarts fault)
    | ok found => rfl
  · rfl

/-- The file is accepted by itself first; then the launch comes down to what the options make of
it. -/
theorem ofArguments_eq (hparse : LaunchOptions.parse arguments = .ok options)
    (hpath : options.config = some path) (hread : Config.ofFile? (readFile path) = some config) :
    ofArguments readFile arguments =
      if config.problems = [] then ofConfig (options.apply config) else ofConfig config := by
  have heffective : options.effective readFile =
      config.accept.bind fun base => (options.apply base).accept := by
    rw [LaunchOptions.effective, hpath]
    dsimp only
    rw [Config.load_eq_accept hread]
    rfl
  split_ifs with hproblems
  · refine ofArguments_of_effective hparse ?_
    rw [heffective, Config.accept_eq config, if_pos hproblems]
    rfl
  · refine ofArguments_of_effective hparse ?_
    rw [heffective, Config.accept_eq config, if_neg hproblems]
    rfl

end

end Launch

/-- **Listeners of a launch stand in place of those of a file that is sound by itself.**  Given
texts for `--listen` and a file with a configuration, there are arguments that spell these options,
and for all arguments that do:

* The options make of it a configuration with one listener for each text, in their order, and with
  all other settings of the file, but for the level of the log when that is given too.
* A file with problems of its own is refused for these problems.
* With any other file, the launch runs what the options make of it, or reports the problems of that.
* Two files that differ in their listeners alone come to the same, when the same is wrong with both
  of them, or nothing. -/
theorem listen_replaces_listeners {options : LaunchOptions} {path : String}
    (hpath : options.config = some path) (hlisten : options.listen ≠ [])
    (readFile other : String → Option Bytes) {config : Config} {listeners : List Config.Listener}
    (hread : Config.ofFile? (readFile path) = some config)
    (hother : Config.ofFile? (other path) = some { config with listeners }) :
    let effective := options.apply config
    (path ≠ "" → LaunchOptions.parse options.arguments = .ok options) ∧
    ∀ arguments, LaunchOptions.parse arguments = .ok options →
      (List.Forall₂ StandsFor options.listen effective.listeners ∧
        effective.headerTimeout = config.headerTimeout ∧
        effective.observability = { config.observability with
          logLevel := options.logLevel.getD config.observability.logLevel }) ∧
      (config.problems ≠ [] →
        Launch.ofArguments readFile arguments = .failed (.noConfig (.invalid config.problems))) ∧
      (config.problems = [] → Launch.ofArguments readFile arguments =
        if effective.problems = [] then .running effective
        else .failed (.noConfig (.invalid effective.problems))) ∧
      (config.problems = { config with listeners }.problems →
        Launch.ofArguments readFile arguments = Launch.ofArguments other arguments) := by
  intro effective
  refine ⟨fun hnamed => LaunchOptions.parse_arguments ?_, fun arguments hparse => ?_⟩
  · rw [hpath]
    exact fun hnone => hnamed (Option.some.inj hnone)
  have hlaunch := Launch.ofArguments_eq hparse hpath hread
  refine ⟨?_, fun hproblems => ?_, fun hnone => ?_, fun hsame => ?_⟩
  · have hlisteners : List.Forall₂ StandsFor options.listen
        (options.listen.map fun bindAddress => { bindAddress }) :=
      List.forall₂_map_right_iff.mpr (List.forall₂_same.mpr fun text _ => standsFor_plain text)
    rw [show effective = _ from LaunchOptions.apply_eq hlisten config]
    exact ⟨hlisteners, rfl, rfl⟩
  · rw [hlaunch, if_neg hproblems, Launch.ofConfig, if_neg hproblems]
  · rw [hlaunch, if_pos hnone]
    rfl
  · rw [hlaunch, Launch.ofArguments_eq hparse hpath hother,
      LaunchOptions.apply_setListeners hlisten config listeners, ← hsame]
    split_ifs with hproblems
    · rfl
    · rw [Launch.ofConfig, Launch.ofConfig, ← hsame, if_neg hproblems, if_neg hproblems]

/-- Two sound files lead to the same launch with `--listen`. -/
theorem listen_replaces_listeners_two_files :
    let arguments := ["--listen", ":8443|P", "-c", "gate.toml", "--listen=[::1]:8080"]
    let plain := "[proxy_protocol]\nheader_timeout_ms = 9"
    let single := "listeners = [\x7bbind_address = ':80'\x7d]\n" ++ plain
    Launch.ofArguments (fun _ => some (Bytes.ofText single)) arguments =
        .running { listeners := [{ bindAddress := ":8443|P" }, { bindAddress := "[::1]:8080" }]
                   headerTimeout := 9 } ∧
      Launch.ofArguments (fun _ => some (Bytes.ofText single)) arguments =
        Launch.ofArguments (fun _ => some (Bytes.ofText plain)) arguments := by
  intro arguments plain single
  let options : LaunchOptions :=
    { config := some "gate.toml", listen := [":8443|P", "[::1]:8080"] }
  have hpath : options.config = some "gate.toml" := rfl
  have hparse : LaunchOptions.parse arguments = .ok options := by decide
  have hread : Config.ofFile? (some (Bytes.ofText single)) =
      some { listeners := [{ bindAddress := ":80" }], headerTimeout := 9 } := by decide +kernel
  have hother : Config.ofFile? (some (Bytes.ofText plain)) = some { headerTimeout := 9 } := by
    decide +kernel
  obtain ⟨_, hlaunches⟩ := listen_replaces_listeners hpath (by decide)
    (fun _ => some (Bytes.ofText single)) (fun _ => some (Bytes.ofText plain)) hread hother
  obtain ⟨_, _, hsound, hsame⟩ := hlaunches arguments hparse
  exact ⟨hsound (by decide), hsame (by decide)⟩

/-- What is wrong with the listeners of a file is reported although they would be replaced. -/
theorem replaced_listeners_refused :
    let arguments := ["--config", "gate.toml", "--listen", "127.0.0.1:0"]
    let bare := some (Bytes.ofText "listeners=[]\n")
    let options : LaunchOptions := { config := some "gate.toml", listen := ["127.0.0.1:0"] }
    let plain : Config := {}
    LaunchOptions.parse arguments = .ok options ∧
      Config.ofFile? (some []) = some plain ∧
      Config.ofFile? bare = some { plain with listeners := [] } ∧
      Launch.ofArguments (fun _ => some []) arguments =
        .running { plain with listeners := [{ bindAddress := "127.0.0.1:0" }] } ∧
      Launch.ofArguments (fun _ => bare) arguments =
        .failed (.noConfig (.invalid [.noListeners])) := by
  intro arguments bare options plain
  refine ⟨by decide, ?_, ?_, ?_, ?_⟩
  · decide +kernel
  · decide +kernel
  · decide +kernel
  · decide +kernel

end Command

end ProxyGate
