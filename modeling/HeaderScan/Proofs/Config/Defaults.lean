import HeaderScan.Proofs.Config.Merge
import HeaderScan.Proofs.Program.Targets

/-!
# The defaults are the same everywhere

Three places speak of the defaults: the command line, where an option that is not given has
one; the configuration file, where a setting that is not given has one; and completion, which
takes from the file what has its default on the command line. All three mean the standard
configuration, so a configuration file that says nothing else decides nothing.
-/

namespace HeaderScan

namespace CommandLine

/-- The argument is no option: it is a dash alone or begins with none. -/
def Unmarked (argument : List UInt8) : Prop := argument = [dash] ∨ argument.head? ≠ some dash

/-- An argument that is no option is a value or a host. -/
theorem ofBytes_of_unmarked {argument : List UInt8} (h : Unmarked argument) :
    Argument.ofBytes argument = .plain argument := by
  rcases h with rfl | h
  · rfl
  · unfold Argument.ofBytes
    split
    case h_1 | h_2 | h_3 => exact absurd rfl h
    case h_4 => rfl

/-- The arguments have no options among them, and name these hosts. -/
inductive Optionless : List (List UInt8) → List String → Prop where
  /-- All of them are hosts. -/
  | bare {hosts : List String} (h : ∀ host ∈ hosts, Unmarked (Text.encodeUtf8 host)) :
      Optionless (hosts.map Text.encodeUtf8) hosts
  /-- After two dashes, all of them are hosts. -/
  | divided {hosts later : List String} (h : ∀ host ∈ hosts, Unmarked (Text.encodeUtf8 host)) :
      Optionless (hosts.map Text.encodeUtf8 ++ [dash, dash] :: later.map Text.encodeUtf8)
        (hosts ++ later)

/-- Where no value is awaited, arguments that are no options are hosts. -/
theorem readAll_unmarked {reading : Reading} (hawaiting : reading.awaiting = none)
    {arguments : List (List UInt8)} (h : ∀ argument ∈ arguments, Unmarked argument)
    (rest : List (List UInt8)) : reading.readAll (arguments ++ rest) =
      Reading.readAll ⟨reading.mentions ++ arguments.map .host, none⟩ rest := by
  induction arguments generalizing reading with
  | nil =>
    rw [List.nil_append, List.map_nil, List.append_nil, ← hawaiting]
  | cons argument later ih =>
    obtain ⟨hargument, hlater⟩ := List.forall_mem_cons.mp h
    rw [List.cons_append, Reading.readAll, ofBytes_of_unmarked hargument]
    have hplain : reading.meetPlain argument = ⟨reading.mentions ++ [.host argument], none⟩ := by
      rw [Reading.meetPlain, hawaiting]
    dsimp only
    rw [hplain, ih rfl hlater, List.map_cons, List.append_assoc, List.singleton_append]

/-- Without options a command line mentions nothing but hosts. -/
theorem Optionless.mentions_eq {arguments : List (List UInt8)} {hosts : List String}
    (h : Optionless arguments hosts) :
    mentions arguments = .ok ((hosts.map Text.encodeUtf8).map .host) := by
  have hunmarked {hosts : List String} (h : ∀ host ∈ hosts, Unmarked (Text.encodeUtf8 host)) :
      ∀ argument ∈ hosts.map Text.encodeUtf8, Unmarked argument := by
    intro argument hargument
    obtain ⟨host, hhost, rfl⟩ := List.mem_map.mp hargument
    exact h host hhost
  have hstart : Reading.start.awaiting = none := rfl
  cases h with
  | bare h =>
    have hread := readAll_unmarked hstart (hunmarked h) []
    rw [List.append_nil] at hread
    rw [mentions, hread]
    rfl
  | @divided hosts later h =>
    rw [mentions, readAll_unmarked hstart (hunmarked h), List.map_append, List.map_append]
    rfl

section Hosts

variable (hosts : List (List UInt8))

/-- The hosts among hosts. -/
theorem hostsIn_map_host : hostsIn (hosts.map .host) = hosts := by
  rw [hostsIn, List.filterMap_map]
  exact List.filterMap_some

/-- There are no values among hosts. -/
theorem valuesIn_map_host (parameter : Parameter) : valuesIn (hosts.map .host) parameter = [] := by
  rw [valuesIn, List.filterMap_map]
  exact List.filterMap_none hosts

/-- There are no items among hosts. -/
theorem items_map_host : (hosts.map Mention.host).filterMap Mention.item? = [] := by
  rw [List.filterMap_map]
  exact List.filterMap_none hosts

/-- A parameter that is not mentioned has its standard value, if it has one. -/
theorem effectiveValues_map_host (parameter : Parameter) :
    effectiveValues (hosts.map .host) parameter =
      (parameter.standard?.map Text.encodeUtf8).toList := by
  rw [effectiveValues, valuesIn_map_host]

/-- Hosts pass all checks of values. -/
theorem checkValues_map_host : checkValues (hosts.map .host) = .ok () := by
  rw [checkValues, items_map_host]
  rfl

/-- Hosts pass all checks of items. -/
theorem checkItem_map_host (item : Item) : checkItem (hosts.map .host) item = .ok () := by
  have htimes : timesIn (hosts.map .host) item = 0 := by
    rw [timesIn, items_map_host]
    rfl
  unfold checkItem
  rw [htimes]
  cases item with
  | switch => rfl
  | parameter p =>
    dsimp only
    rw [valuesIn_map_host]
    cases p <;> rfl

end Hosts

/-- What is written for a text is taken for this text. -/
theorem textOf_encodeUtf8 (text : String) : textOf (Text.encodeUtf8 text) = .ok text := by
  rw [textOf, Text.decodeUtf8_encodeUtf8]
  rfl

/-- A text parameter that is not mentioned has its standard value. -/
theorem textValue_map_host (hosts : List (List UInt8)) {parameter : Parameter} {text : String}
    (h : parameter.standard? = some text) :
    textValue (hosts.map .host) parameter = .ok text := by
  rw [textValue, effectiveValues_map_host, h]
  exact textOf_encodeUtf8 text

/-- A count that is not mentioned and has no standard value is absent. -/
theorem countValue_map_host (hosts : List (List UInt8)) {parameter : Parameter}
    (h : parameter.standard? = none) : countValue (hosts.map .host) parameter = .ok none := by
  rw [countValue, effectiveValues_map_host, h]
  rfl

/-- The number of workers, when it is not mentioned, is the standard one. -/
theorem countValue_workers (hosts : List (List UInt8)) :
    countValue (hosts.map .host) .workers = .ok (some Config.standard.workers) := by
  have hcount : Count.ofText (Text.decodeUtf8Lossy (Text.encodeUtf8 Config.standard.workers.repr)) =
      .ok Config.standard.workers := by
    decide +kernel
  rw [countValue, effectiveValues_map_host]
  change Option.mapM (readCount .workers) (some (Text.encodeUtf8 _)) = _
  rw [Option.mapM_some, readCount, hcount]
  rfl

/-- Texts are read one by one. -/
theorem mapM_textOf (texts : List String) :
    (texts.map Text.encodeUtf8).mapM textOf = .ok texts := by
  induction texts with
  | nil => rfl
  | cons text later ih =>
    rw [List.map_cons, List.mapM_cons, textOf_encodeUtf8, ih]
    rfl

/-- Without options a command line names its hosts, the standard configuration file and the
standard configuration. -/
theorem Optionless.ofArguments_eq {arguments : List (List UInt8)} {hosts : List String}
    (h : Optionless arguments hosts) :
    Invocation.ofArguments arguments = .ok ⟨"./hdrscan.toml", hosts, .standard⟩ := by
  have hchecks (items : List Item) :
      items.forM (checkItem ((hosts.map Text.encodeUtf8).map .host)) = .ok () := by
    induction items with
    | nil => rfl
    | cons item later ih =>
      change (do checkItem _ item; later.forM _) = _
      rw [checkItem_map_host]
      exact ih
  have hsound : Invocation.ofSound ((hosts.map Text.encodeUtf8).map .host) =
      .ok ⟨"./hdrscan.toml", hosts, .standard⟩ := by
    rw [Invocation.ofSound, hostsIn_map_host, mapM_textOf, textValue_map_host _ rfl,
      countValue_workers, countValue_map_host _ rfl, textValue_map_host _ rfl,
      textValue_map_host _ rfl, valuesIn_map_host, countValue_map_host _ rfl, valuesIn_map_host]
    simp only [timesIn, items_map_host]
    rfl
  rw [Invocation.ofArguments, h.mentions_eq]
  change (do checkValues _; _) = _
  rw [checkValues_map_host, hchecks]
  exact hsound

end CommandLine

namespace Config

/-- What stands under a key of a configuration file does not differ from a default: it spells
the default of the setting with this name, or there is no such setting. What is absent by
default cannot be spelled. -/
def isDefault (key : String) (content : Content) : Bool :=
  match key with
  | "verbose" =>
    match content with
    | .value (.boolean _ b) => b = standard.verbose
    | _ => false
  | "workers" =>
    match content with
    | .value (.integer _ n) => n = standard.workers
    | _ => false
  | "header" =>
    match content with
    | .value (.string _ text) => text = standard.header
    | _ => false
  | "user_agent" =>
    match content with
    | .value (.string _ text) => text = standard.userAgent
    | _ => false
  | "hosts" | "request_headers" =>
    match content with
    | .value (.array _ items) => items.isEmpty
    | _ => false
  | "threads" | "hosts_file" | "timeout" => false
  | _ => true

/-- What a visit of a configuration file meets does not differ from a default. -/
def isDefaultEvent : Toml.Event → Bool
  | .value key value => isDefault key (.value value)
  | .group key isArray => isDefault key (.group isArray)
  | .misfit _ _ => false

namespace Content

variable {content : Content}

/-- Only truth values are read as such. -/
theorem eq_of_boolean {b : Bool} (h : content.boolean = .ok b) :
    ∃ offset, content = .value (.boolean offset b) := by
  unfold boolean at h
  split at h
  case h_1 offset other =>
    cases h
    exact ⟨offset, rfl⟩
  case h_2 => cases h

/-- Only integers are read as counts. -/
theorem eq_of_count {expected : String} {n : Nat} (h : content.count expected = .ok n) :
    ∃ offset, content = .value (.integer offset n) := by
  unfold count at h
  split at h
  case h_1 offset other =>
    cases h
    exact ⟨offset, rfl⟩
  case h_2 | h_3 => cases h

/-- Only texts are read as such. -/
theorem eq_of_text {expected given : String} (h : content.text expected = .ok given) :
    ∃ offset, content = .value (.string offset given) := by
  unfold text at h
  split at h
  case h_1 offset other =>
    cases h
    exact ⟨offset, rfl⟩
  case h_2 => cases h

/-- Only arrays are read as lists of texts, and each item as a text. -/
theorem eq_of_texts {given : List String} (h : content.texts = .ok given) :
    ∃ offset items, content = .value (.array offset items) ∧
      items.mapM (fun item => text "a string" (.value item)) = .ok given := by
  unfold texts at h
  split at h
  case h_1 offset items => exact ⟨offset, items, rfl, h⟩
  case h_2 | h_3 => cases h

/-- A text that does not differ from a default is read as this default. -/
theorem eq_default_of_text {key expected default given : String}
    (hkey : ∀ offset text, isDefault key (.value (.string offset text)) = decide (text = default))
    (hdefault : isDefault key content = true) (h : content.text expected = .ok given) :
    given = default := by
  obtain ⟨offset, rfl⟩ := eq_of_text h
  rw [hkey] at hdefault
  exact of_decide_eq_true hdefault

/-- An array that is empty is read as no texts. -/
theorem eq_nil_of_texts {key : String} {given : List String}
    (hkey : ∀ offset items, isDefault key (.value (.array offset items)) = items.isEmpty)
    (hdefault : isDefault key content = true) (h : content.texts = .ok given) : given = [] := by
  obtain ⟨offset, items, rfl, hitems⟩ := eq_of_texts h
  rw [hkey, List.isEmpty_iff] at hdefault
  rw [hdefault] at hitems
  cases hitems
  rfl

end Content

namespace Draft

variable {draft later : Draft}

/-- A setting that is met with its default has it as before. -/
theorem getD_once {α : Type} {met new : Option α} {key : String}
    {read : Content → Except Mismatch α} {content : Content} {default : α}
    (h : once met key read content = .ok new)
    (hread : ∀ value, read content = .ok value → value = default) :
    new.getD default = met.getD default := by
  unfold once at h
  cases met with
  | some value => cases h
  | none =>
    rw [Option.isSome_none, if_neg Bool.false_ne_true] at h
    cases hvalue : read content with
    | error mismatch =>
      rw [hvalue] at h
      cases h
    | ok value =>
      rw [hvalue] at h
      cases h
      exact hread value hvalue

/-- An entry that does not differ from a default leaves the configuration as it is. -/
theorem complete_meet {key : String} {content : Content} (hdefault : isDefault key content = true)
    (h : draft.meet key content = .ok later) : later.complete = draft.complete := by
  unfold meet at h
  split at h
  case h_1 =>
    obtain ⟨verbose, honce, h⟩ := exists_of_bind h
    cases h
    have hread : ∀ b, content.boolean = .ok b → b = standard.verbose := by
      intro b hb
      obtain ⟨offset, rfl⟩ := Content.eq_of_boolean hb
      exact of_decide_eq_true hdefault
    simp only [complete, getD_once honce hread]
  case h_2 =>
    obtain ⟨workers, honce, h⟩ := exists_of_bind h
    cases h
    have hread : ∀ n, content.count "usize" = .ok n → n = standard.workers := by
      intro n hn
      obtain ⟨offset, rfl⟩ := Content.eq_of_count hn
      exact Int.ofNat.inj (of_decide_eq_true hdefault)
    simp only [complete, getD_once honce hread]
  case h_4 =>
    obtain ⟨header, honce, h⟩ := exists_of_bind h
    cases h
    have hread : ∀ text, content.text "a string" = .ok text → text = standard.header := fun _ =>
      Content.eq_default_of_text (fun _ _ => rfl) hdefault
    simp only [complete, getD_once honce hread]
  case h_6 =>
    obtain ⟨hosts, honce, h⟩ := exists_of_bind h
    cases h
    have hread : ∀ texts, content.texts = .ok texts → texts = standard.hosts := fun _ =>
      Content.eq_nil_of_texts (fun _ _ => rfl) hdefault
    simp only [complete, getD_once honce hread]
  case h_7 =>
    obtain ⟨userAgent, honce, h⟩ := exists_of_bind h
    cases h
    have hread : ∀ text, content.text "a string" = .ok text → text = standard.userAgent := fun _ =>
      Content.eq_default_of_text (fun _ _ => rfl) hdefault
    simp only [complete, getD_once honce hread]
  case h_8 =>
    obtain ⟨requestHeaders, honce, h⟩ := exists_of_bind h
    cases h
    have hread : ∀ texts, content.texts = .ok texts → texts = standard.requestHeaders := fun _ =>
      Content.eq_nil_of_texts (fun _ _ => rfl) hdefault
    simp only [complete, getD_once honce hread]
  -- What is absent by default is not spelled.
  case h_3 | h_5 | h_9 => cases hdefault
  case h_10 =>
    cases h
    rfl

/-- Events that do not differ from defaults leave the configuration as it is. -/
theorem complete_meetAll {events : List Toml.Event} (hdefault : events.all isDefaultEvent = true)
    (h : draft.meetAll events = .ok later) : later.complete = draft.complete := by
  induction events generalizing draft with
  | nil =>
    cases h
    rfl
  | cons event rest ih =>
    rw [List.all_cons, Bool.and_eq_true] at hdefault
    obtain ⟨hevent, hrest⟩ := hdefault
    cases event with
    | value key value =>
      change isDefault key (.value value) = true at hevent
      obtain ⟨next, hnext, h⟩ := exists_of_bind h
      rw [ih hrest h, complete_meet hevent hnext]
    | group key isArray =>
      change isDefault key (.group isArray) = true at hevent
      obtain ⟨next, hnext, h⟩ := exists_of_bind h
      rw [ih hrest h, complete_meet hevent hnext]
    | misfit fault keys => cases hevent

end Draft

/-- A configuration file holds only default values: it holds a configuration, and every setting
that it gives is given its default. -/
inductive HoldsDefaults : List UInt8 → Prop where
  | intro {text : String} {sections : List Toml.Section} {config : Config}
      (hsections : Toml.readSections text = .ok sections)
      (hdefault : (Toml.outline sections).all isDefaultEvent = true)
      (hconfig : ofText text = .ok config) : HoldsDefaults (Text.encodeUtf8 text)

/-- A configuration file that holds only default values holds the standard configuration. -/
theorem HoldsDefaults.ofBytes_eq {content : List UInt8} (h : HoldsDefaults content) :
    ofBytes content = .ok standard := by
  obtain ⟨hsections, hdefault, hconfig⟩ := h
  rw [ofBytes, Text.decodeUtf8_encodeUtf8]
  dsimp only
  rw [hconfig, Except.ok.injEq]
  unfold ofText at hconfig
  rw [hsections] at hconfig
  dsimp only at hconfig
  cases hdraft : Draft.empty.meetAll (Toml.outline _) with
  | error objection =>
    rw [hdraft] at hconfig
    cases hconfig
  | ok draft =>
    rw [hdraft] at hconfig
    cases hconfig
    exact Draft.complete_meetAll hdefault hdraft

/-- An empty configuration file holds the standard configuration. -/
theorem ofBytes_nil : ofBytes [] = .ok standard := by
  have hempty : (ofBytes []).toOption.bind some = some standard := by
    decide +kernel
  obtain ⟨config, hconfig, hstandard⟩ := exists_of_toOption_bind hempty
  rw [hconfig, Option.some.inj hstandard]

/-- Nothing is configured in the file at this path. -/
inductive Bare (read : FilePath → Except FileError (List UInt8)) (path : FilePath) : Prop where
  /-- There is no file. -/
  | missing (hread : read path = .error .notFound)
  /-- The file is empty. -/
  | empty (hread : read path = .ok [])
  /-- The file holds only default values. -/
  | defaults {content : List UInt8} (hread : read path = .ok content)
      (hdefaults : HoldsDefaults content)

end Config

namespace Invocation

variable {read other : FilePath → Except FileError (List UInt8)} {invocation : Invocation}

/-- When nothing is configured in the configuration file, the settings are those of the command
line. -/
theorem settings_of_bare (h : Config.Bare read (.ofText invocation.configFile)) :
    invocation.settings read = .ok invocation.config := by
  have hstandard {content : List UInt8} (hread : read (.ofText invocation.configFile) = .ok content)
      (hcontent : Config.ofBytes content = .ok .standard) :
      invocation.settings read = .ok invocation.config := by
    rw [settings, Config.load, hread]
    dsimp only
    rw [hcontent]
    change Except.ok (invocation.config.merge .standard) = _
    rw [Config.merge_standard]
  cases h with
  | missing hread =>
    rw [settings, Config.load, hread]
    rfl
  | empty hread => exact hstandard hread Config.ofBytes_nil
  | defaults hread hdefaults => exact hstandard hread hdefaults.ofBytes_eq

/-- The job is decided by the settings and the hosts. -/
theorem job_congr (hsettings : invocation.settings other = invocation.settings read)
    (htargets : ∀ config, invocation.settings read = .ok config →
      targets (invocation.hosts.map Host.mk) config other =
        targets (invocation.hosts.map Host.mk) config read) :
    invocation.job other = invocation.job read := by
  unfold job
  rw [hsettings]
  cases hconfig : invocation.settings read with
  | error error => rfl
  | ok config =>
    change (do let hosts ← (targets _ config other).mapError _; _) =
      (do let hosts ← (targets _ config read).mapError _; _)
    rw [htargets config hconfig]

end Invocation

/-- Completion is a union that prefers its left side, and the defaults are the same everywhere.
Every setting is the first one where that differs from its default, and the second one
otherwise; so completion is associative and idempotent, and the standard configuration is its
identity. It is the configuration of every command line without options and of an empty
configuration file. Therefore, with any command line, a configuration file that is missing, is
empty or holds only default values leaves the settings of the command line as they are, and
the hosts and all of the job are the same in these cases as long as the hosts file reads the
same. -/
theorem defaults_agree :
    (∀ (first second : Config) (setting : Setting), (first.merge second).get setting =
      if first.get setting = Config.standard.get setting then second.get setting
      else first.get setting) ∧
    (∀ first second third : Config,
      (first.merge second).merge third = first.merge (second.merge third)) ∧
    (∀ config : Config, config.merge config = config ∧ Config.standard.merge config = config ∧
      config.merge .standard = config) ∧
    (∀ arguments hosts, CommandLine.Optionless arguments hosts →
      Invocation.ofArguments arguments = .ok ⟨"./hdrscan.toml", hosts, .standard⟩) ∧
    Config.ofBytes [] = .ok .standard ∧
    ∀ (invocation : Invocation) (read other : FilePath → Except FileError (List UInt8)),
      Config.Bare read (.ofText invocation.configFile) →
      Config.Bare other (.ofText invocation.configFile) →
      invocation.settings read = .ok invocation.config ∧
      invocation.settings other = .ok invocation.config ∧
      ((∀ path, invocation.config.hostsFile = some path → other path = read path) →
        targets (invocation.hosts.map Host.mk) invocation.config other =
          targets (invocation.hosts.map Host.mk) invocation.config read ∧
        invocation.job other = invocation.job read) := by
  refine ⟨Config.get_merge, Config.merge_assoc, fun config => ?_, fun arguments hosts h => ?_,
    Config.ofBytes_nil, fun invocation read other hread hother => ?_⟩
  · exact ⟨Config.merge_self config, Config.standard_merge config, Config.merge_standard config⟩
  · exact h.ofArguments_eq
  · have hsettings := Invocation.settings_of_bare hread
    have hsettings' := Invocation.settings_of_bare hother
    refine ⟨hsettings, hsettings', fun hfile => ?_⟩
    have htargets : targets (invocation.hosts.map Host.mk) invocation.config other =
        targets (invocation.hosts.map Host.mk) invocation.config read := targets_congr hfile
    refine ⟨htargets, Invocation.job_congr (hsettings'.trans hsettings.symm) ?_⟩
    intro config hconfig
    cases hsettings.symm.trans hconfig
    exact htargets

/-- Every default that can be spelled. -/
def spelledDefaults : String :=
  "verbose = false\nworkers = 256\nheader = \"x-forwarded-for\"\nhosts = []\n" ++
    "user_agent = \"hdrscan/0.1.0\"\nrequest_headers = []\n"

/-- A text holds only default values when its visit meets nothing else. -/
theorem Config.holdsDefaults_of_eval {text : String}
    (h : (Toml.readSections text).toOption.bind (fun sections =>
      (Config.ofText text).toOption.map fun _ =>
        (Toml.outline sections).all isDefaultEvent) = some true) :
    HoldsDefaults (Text.encodeUtf8 text) := by
  obtain ⟨sections, hsections, h⟩ := exists_of_toOption_bind h
  obtain ⟨config, hconfig, hdefault⟩ := Option.map_eq_some_iff.mp h
  cases hvalue : Config.ofText text with
  | error error =>
    rw [hvalue] at hconfig
    cases hconfig
  | ok other => exact .intro hsections hdefault hvalue

/-- The case of a switch on the command line and a file in which all defaults are spelled. -/
theorem defaults_agree_spelled : ∃ invocation,
    Invocation.ofArguments (["-v", "http://a"].map Text.encodeUtf8) = .ok invocation ∧
    invocation.settings (soleFile (.ofText "./hdrscan.toml") (Text.encodeUtf8 spelledDefaults)) =
      .ok { Config.standard with verbose := true } ∧
    invocation.job (soleFile (.ofText "./hdrscan.toml") (Text.encodeUtf8 spelledDefaults)) =
      invocation.job fun _ => .error .notFound := by
  have hgiven : ((Invocation.ofArguments (["-v", "http://a"].map Text.encodeUtf8)).toOption.bind
      fun invocation => some (invocation.configFile, invocation.config)) =
      some ("./hdrscan.toml", { Config.standard with verbose := true }) := by
    decide +kernel
  obtain ⟨invocation, hinvocation, hgiven⟩ := exists_of_toOption_bind hgiven
  obtain ⟨hfile, hconfig⟩ := Prod.mk.inj (Option.some.inj hgiven)
  have hspelled : Config.HoldsDefaults (Text.encodeUtf8 spelledDefaults) :=
    Config.holdsDefaults_of_eval (by decide +kernel)
  obtain ⟨-, -, -, -, -, hbare⟩ := defaults_agree
  obtain ⟨-, hsettings, hsame⟩ := hbare invocation (fun _ => .error .notFound)
    (soleFile (.ofText "./hdrscan.toml") (Text.encodeUtf8 spelledDefaults)) (.missing rfl)
    (.defaults (by rw [hfile]; exact if_pos rfl) hspelled)
  rw [hconfig] at hsettings
  refine ⟨invocation, hinvocation, hsettings, (hsame ?_).2⟩
  intro path hpath
  rw [hconfig] at hpath
  cases hpath

/-- The hosts may differ where the hosts file is the configuration file: if that file is empty
there are none, and if it holds a default value then its line is a host. -/
theorem hosts_of_configFile : ¬ ∀ (arguments : List (List UInt8)) (invocation : Invocation)
    (read other : FilePath → Except FileError (List UInt8)),
    Invocation.ofArguments arguments = .ok invocation →
    (∀ path, path ≠ .ofText invocation.configFile → other path = read path) →
    Config.Bare read (.ofText invocation.configFile) →
    Config.Bare other (.ofText invocation.configFile) →
    targets (invocation.hosts.map Host.mk) invocation.config other =
      targets (invocation.hosts.map Host.mk) invocation.config read := by
  intro hsame
  have hgiven : ((Invocation.ofArguments
      (["--hosts-file", "./hdrscan.toml"].map Text.encodeUtf8)).toOption.bind
      fun invocation => some (invocation.configFile, invocation.config)) =
      some ("./hdrscan.toml",
        { Config.standard with hostsFile := some (.ofText "./hdrscan.toml") }) := by
    decide +kernel
  obtain ⟨invocation, hinvocation, hgiven⟩ := exists_of_toOption_bind hgiven
  obtain ⟨hfile, hconfig⟩ := Prod.mk.inj (Option.some.inj hgiven)
  have hdefault : Config.HoldsDefaults (Text.encodeUtf8 "verbose = false\n") :=
    Config.holdsDefaults_of_eval (by decide +kernel)
  have hhosts := hsame _ invocation (soleFile (.ofText "./hdrscan.toml") (Text.encodeUtf8 ""))
    (soleFile (.ofText "./hdrscan.toml") (Text.encodeUtf8 "verbose = false\n")) hinvocation ?_ ?_ ?_
  · have hpath : invocation.config.hostsFile = some (.ofText "./hdrscan.toml") := by rw [hconfig]
    rw [targets_of_text hpath (if_pos rfl), targets_of_text hpath (if_pos rfl),
      Except.ok.injEq, List.append_cancel_left_eq] at hhosts
    revert hhosts
    decide +kernel
  · intro path hpath
    rw [hfile] at hpath
    exact (if_neg hpath).trans (if_neg hpath).symm
  · have hempty : Text.encodeUtf8 "" = [] := by decide +kernel
    rw [hfile]
    exact .empty (by rw [soleFile, if_pos rfl, hempty])
  · rw [hfile]
    exact .defaults (if_pos rfl) hdefault

end HeaderScan
