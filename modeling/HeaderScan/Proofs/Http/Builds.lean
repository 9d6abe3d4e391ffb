import HeaderScan.Proofs.Http.FieldLines

/-!
# What a build depends on

A builder can be told anything in any order: to keep a setting, to keep further fields that
are written in lines, or to build a client. A build takes the last value of each setting, or
the default of one that was never set. What was built before and lines that are no fields leave
no trace.
-/

namespace HeaderScan.Http

namespace ClientBuilder

/-- What a builder can be told. -/
inductive Command where
  /-- Look for the field with this name. -/
  | header (name : String)
  /-- Use this user agent. -/
  | userAgent (agent : String)
  /-- Let requests take no longer than this, or as long as they like. -/
  | timeout (timeout : Option Duration)
  /-- Send these fields with every request. -/
  | customFields (fields : FieldMap)
  /-- Send the fields that these lines configure, if they are fields. -/
  | customLines (lines : List String)
  /-- Build a client. -/
  | build

/-- The answer to a command. -/
inductive Reply where
  /-- The setting is kept. -/
  | kept
  /-- The lines are no fields. -/
  | refused (error : FieldLineError)
  /-- What the build came to. -/
  | built (result : Except ScanError Client)

namespace Command

/-- The name of the field to look for, if it is set. -/
def header? : Command → Option String
  | header name => some name
  | _ => none

/-- The user agent, if it is set. -/
def userAgent? : Command → Option String
  | userAgent agent => some agent
  | _ => none

/-- How long a request may take, if it is set. -/
def timeout? : Command → Option (Option Duration)
  | timeout limit => some limit
  | _ => none

/-- The further fields, if they are set. -/
def customFields? : Command → Option FieldMap
  | customFields fields => some fields
  | customLines lines => (FieldLine.parseAll lines).toOption
  | _ => none

end Command

/-- The builder after a command, and the answer. -/
def tell (builder : ClientBuilder) : Command → ClientBuilder × Reply
  | .header name => (builder.setHeader name, .kept)
  | .userAgent agent => (builder.setUserAgent agent, .kept)
  | .timeout timeout => (builder.setTimeout timeout, .kept)
  | .customFields fields => (builder.setCustomFields fields, .kept)
  | .customLines lines =>
    match FieldLine.parseAll lines with
    | .ok fields => (builder.setCustomFields fields, .kept)
    | .error error => (builder, .refused error)
  | .build => (builder, .built builder.build)

/-- The builder after some commands, one after the other. -/
def ofCommands (commands : List Command) : ClientBuilder :=
  commands.foldl (fun builder command => (builder.tell command).1) new

/-- The answers to some commands. -/
def replies (builder : ClientBuilder) : List Command → List Reply
  | [] => []
  | command :: later => (builder.tell command).2 :: (builder.tell command).1.replies later

/-- The last value that some commands set. -/
def last? {α : Type} (set? : Command → Option α) (commands : List Command) : Option α :=
  (commands.filterMap set?).getLast?

/-- The settings that count for a build. -/
structure Settings where
  /-- The name of the field to look for. -/
  header : String
  /-- The user agent. -/
  userAgent : String
  /-- How long a request may take. -/
  timeout : Option Duration
  /-- Further fields of every request. -/
  customFields : FieldMap

namespace Settings

/-- The last values that some commands set, with the default for what they do not set. -/
def ofCommands (commands : List Command) : Settings where
  header := (last? Command.header? commands).getD defaultHeader
  userAgent := (last? Command.userAgent? commands).getD defaultUserAgent
  timeout := (last? Command.timeout? commands).getD none
  customFields := (last? Command.customFields? commands).getD .empty

/-- The settings name a field between blanks. -/
def Named (settings : Settings) : Prop :=
  FieldName.isName (Text.trim settings.header).toList = true

/-- The user agent can be the value of a field. -/
def Valued (settings : Settings) : Prop :=
  (Text.encodeUtf8 settings.userAgent).all FieldValue.isValueByte = true

instance (settings : Settings) : Decidable settings.Named :=
  inferInstanceAs (Decidable (FieldName.isName (Text.trim settings.header).toList = true))

instance (settings : Settings) : Decidable settings.Valued :=
  inferInstanceAs
    (Decidable ((Text.encodeUtf8 settings.userAgent).all FieldValue.isValueByte = true))

/-- The client that settings make: it looks for the name between its blanks in lower case. -/
def client (settings : Settings) : Client where
  header := ⟨(Text.trim settings.header).map Char.toLower⟩
  requestFields :=
    ClientBuilder.requestFields ⟨Text.encodeUtf8 settings.userAgent⟩ (some settings.customFields)
  timeout := settings.timeout

/-- What a build comes to with these settings. -/
def build (settings : Settings) : Except ScanError Client :=
  if settings.Named then
    if settings.Valued then .ok settings.client else .error .invalidHeaderValue
  else .error (.invalidHeaderName settings.header)

end Settings

@[simp] theorem last?_nil {α : Type} (set? : Command → Option α) : last? set? [] = none := rfl

/-- A later value replaces an earlier one. -/
@[simp] theorem last?_concat {α : Type} (set? : Command → Option α) (commands : List Command)
    (command : Command) :
    last? set? (commands ++ [command]) = (set? command).or (last? set? commands) := by
  unfold last?
  cases hset : set? command <;> simp [hset]

@[simp] theorem ofCommands_concat (commands : List Command) (command : Command) :
    ofCommands (commands ++ [command]) = ((ofCommands commands).tell command).1 := by
  simp [ofCommands]

/-- A command changes the settings that it sets, and no others. -/
theorem tell_fst (builder : ClientBuilder) (command : Command) : (builder.tell command).1 =
    ⟨command.header?.or builder.header, command.userAgent?.or builder.userAgent,
      command.timeout?.getD builder.timeout, command.customFields?.or builder.customFields⟩ := by
  cases command with
  | customLines lines =>
    rw [tell, Command.customFields?]
    cases FieldLine.parseAll lines <;> rfl
  | _ => rfl

/-- A builder keeps the last value of each setting. -/
theorem ofCommands_eq (commands : List Command) : ofCommands commands =
    ⟨last? Command.header? commands, last? Command.userAgent? commands,
      (last? Command.timeout? commands).getD none, last? Command.customFields? commands⟩ := by
  induction commands using List.reverseRecOn with
  | nil => rfl
  | append_singleton commands command ih =>
    rw [ofCommands_concat, tell_fst, ih, last?_concat, last?_concat, last?_concat, last?_concat]
    cases command.timeout? <;> rfl

/-- A command is answered by the builder after all earlier commands. -/
theorem getElem?_replies (earlier : List Command) (command : Command) (later : List Command) :
    (replies new (earlier ++ command :: later))[earlier.length]? =
      some ((ofCommands earlier).tell command).2 := by
  unfold ofCommands
  generalize new = builder
  induction earlier generalizing builder with
  | nil => rfl
  | cons first rest ih => exact ih (builder.tell first).1

/-- The settings of a builder, with the default for what was never set. -/
def settings (builder : ClientBuilder) : Settings where
  header := builder.header.getD defaultHeader
  userAgent := builder.userAgent.getD defaultUserAgent
  timeout := builder.timeout
  customFields := builder.customFields.getD .empty

/-- The settings that count are the last ones. -/
theorem settings_ofCommands (commands : List Command) :
    (ofCommands commands).settings = .ofCommands commands := by
  rw [ofCommands_eq]
  rfl

/-- A name between blanks is put into lower case. -/
theorem canonicalName_of_named (settings : Settings) (h : settings.Named) :
    canonicalName settings.header = .ok ⟨(Text.trim settings.header).map Char.toLower⟩ := by
  have hname : FieldName.isName (Text.trim settings.header).toList = true := h
  -- `rw` would compute with the longest length of a name, which takes long.
  delta canonicalName FieldName.ofText?
  rw [if_pos hname]

/-- A text that is no name between its blanks is refused as given. -/
theorem canonicalName_of_not_named (settings : Settings) (h : ¬ settings.Named) :
    canonicalName settings.header = .error (.invalidHeaderName settings.header) := by
  have hname : ¬ FieldName.isName (Text.trim settings.header).toList = true := h
  delta canonicalName FieldName.ofText?
  rw [if_neg hname]

/-- A build looks at nothing but the settings: first at the name, then at the user agent. -/
theorem build_eq (builder : ClientBuilder) : builder.build = builder.settings.build := by
  unfold build Settings.build
  by_cases hname : builder.settings.Named
  · have hheader : canonicalName (builder.header.getD defaultHeader) =
        .ok ⟨(Text.trim builder.settings.header).map Char.toLower⟩ :=
      canonicalName_of_named builder.settings hname
    rw [hheader, if_pos hname]
    by_cases hvalue : builder.settings.Valued
    · have hagent : FieldValue.ofText? (builder.userAgent.getD defaultUserAgent) =
          some ⟨Text.encodeUtf8 builder.settings.userAgent⟩ := if_pos hvalue
      rw [hagent, if_pos hvalue]
      rfl
    · have hagent : FieldValue.ofText? (builder.userAgent.getD defaultUserAgent) = none :=
        if_neg hvalue
      rw [hagent, if_neg hvalue]
      rfl
  · have hheader : canonicalName (builder.header.getD defaultHeader) =
        .error (.invalidHeaderName builder.settings.header) :=
      canonicalName_of_not_named builder.settings hname
    rw [hheader, if_neg hname]
    rfl

namespace Settings

variable {settings : Settings}

/-- A build fails because of the name, or else because of the user agent. -/
theorem build_eq_error_iff {error : ScanError} : settings.build = .error error ↔
    ¬ settings.Named ∧ error = .invalidHeaderName settings.header ∨
      settings.Named ∧ ¬ settings.Valued ∧ error = .invalidHeaderValue := by
  unfold build
  by_cases hname : settings.Named
  · by_cases hvalue : settings.Valued
    · simp [hname, hvalue]
    · simp [hname, hvalue, eq_comm]
  · simp [hname, eq_comm]

/-- A build succeeds when there is a name and a user agent. -/
theorem build_eq_ok_iff {client : Client} : settings.build = .ok client ↔
    settings.Named ∧ settings.Valued ∧ client = settings.client := by
  unfold build
  by_cases hname : settings.Named
  · by_cases hvalue : settings.Valued
    · simp [hname, hvalue, eq_comm]
    · simp [hname, hvalue]
  · simp [hname]

end Settings

/-- No name is twice among the fields of a request. -/
theorem nodup_requestFields (agent : FieldValue) (custom : Option FieldMap) :
    ((requestFields agent custom).entries.map Prod.fst).Nodup :=
  (FieldMap.Ordered.extend FieldMap.ordered_empty.insert _).nodup

/-- The fields of a request are the custom ones, and the user agent if they have none. -/
theorem mem_requestFields {agent : FieldValue} {custom : FieldMap}
    (hcustom : (custom.entries.map Prod.fst).Nodup) (name : FieldName) (value : FieldValue) :
    (name, value) ∈ (requestFields agent (some custom)).entries ↔
      (name, value) ∈ custom.entries ∨
        name = userAgentName ∧ value = agent ∧
          ∀ other, (userAgentName, other) ∉ custom.entries := by
  have hsole : (name, value) ∈ (FieldMap.empty.insert userAgentName agent).entries ↔
      (name, value) = (userAgentName, agent) := List.mem_singleton
  have hnone : userAgentName ∉ custom.entries.map Prod.fst ↔
      ∀ other, (userAgentName, other) ∉ custom.entries := by simp
  rw [requestFields, Option.getD_some,
    FieldMap.Ordered.mem_extend FieldMap.ordered_empty.insert hcustom, hsole, Prod.mk.injEq,
    ← hnone]
  constructor
  · rintro (hmem | ⟨⟨rfl, rfl⟩, hnot⟩)
    · exact .inl hmem
    · exact .inr ⟨rfl, rfl, hnot⟩
  · rintro (hmem | ⟨rfl, rfl, hnot⟩)
    · exact .inl hmem
    · exact .inr ⟨⟨rfl, rfl⟩, hnot⟩

/-- What a build comes to, among any commands. It depends on nothing but the last value of each
setting before it, or the default of one that was never set. It fails with the name as given
exactly when this is no name between its blanks, else because of the user agent exactly when
this is no field value, and else makes a client that looks for the name between its blanks in
lower case. When the custom fields come from lines, the fields of its requests are exactly
these and the user agent, and a custom user agent stands alone instead of the configured
one. -/
theorem build_determined (earlier later : List Command) :
    let settings := Settings.ofCommands earlier
    ∃ result, (replies new (earlier ++ .build :: later))[earlier.length]? = some (.built result) ∧
      (∀ other after, Settings.ofCommands other = settings →
        (replies new (other ++ .build :: after))[other.length]? = some (.built result)) ∧
      (∀ error, result = .error error ↔
        ¬ settings.Named ∧ error = .invalidHeaderName settings.header ∨
          settings.Named ∧ ¬ settings.Valued ∧ error = .invalidHeaderValue) ∧
      ((∃ client, result = .ok client) ↔ settings.Named ∧ settings.Valued) ∧
      ∀ client, result = .ok client →
        client.header.text = (Text.trim settings.header).map Char.toLower ∧
        client.timeout = settings.timeout ∧
        ∀ lines, FieldLine.parseAll lines = .ok settings.customFields →
          (client.requestFields.entries.map Prod.fst).Nodup ∧
          ∀ name value, (name, value) ∈ client.requestFields.entries ↔
            (name, value) ∈ settings.customFields.entries ∨
              name = userAgentName ∧ value = ⟨Text.encodeUtf8 settings.userAgent⟩ ∧
                ∀ other, (userAgentName, other) ∉ settings.customFields.entries := by
  intro settings
  have hbuilt (commands after : List Command) :
      (replies new (commands ++ .build :: after))[commands.length]? =
        some (.built (Settings.ofCommands commands).build) := by
    rw [getElem?_replies, tell, build_eq, settings_ofCommands]
  refine ⟨settings.build, hbuilt earlier later, fun other after h => ?_,
    fun error => Settings.build_eq_error_iff, ?_, fun client hclient => ?_⟩
  · rw [← h]
    exact hbuilt other after
  · simp only [Settings.build_eq_ok_iff, exists_and_left, exists_eq, and_true]
  · obtain ⟨-, -, rfl⟩ := Settings.build_eq_ok_iff.mp hclient
    refine ⟨rfl, rfl, fun lines hlines => ⟨nodup_requestFields _ _, ?_⟩⟩
    exact mem_requestFields (FieldLine.ordered_of_parseAll hlines).nodup

/-- A builder is told a name between blanks, builds a client, is told lines of which one is no
field, lines with a user agent, and last of all another user agent. -/
def overriding : List Command :=
  [.header " X-Two\t", .build, .customLines ["a"], .customLines ["User-Agent=b", "a=b"],
    .userAgent "c"]

/-- The case of a user agent that is set after a custom one. -/
theorem build_determined_overriding : ∃ client,
    (replies new (overriding ++ [.build, .header "("]))[5]? = some (.built (.ok client)) ∧
      client.header.text = "x-two" ∧ client.timeout = none ∧
      ∀ value, (userAgentName, value) ∈ client.requestFields.entries ↔ value = ⟨[0x62]⟩ := by
  obtain ⟨result, hreply, -, -, hmade, hclient⟩ := build_determined overriding [.header "("]
  obtain ⟨client, rfl⟩ := hmade.mpr ⟨by decide +kernel, by decide +kernel⟩
  obtain ⟨hheader, htimeout, hfields⟩ := hclient client rfl
  have hlines : ∀ line ∈ ["User-Agent=b", "a=b"], FieldLine.WellFormed line := by
    intro line hline
    simp only [List.mem_cons, List.not_mem_nil, or_false] at hline
    rcases hline with rfl | rfl <;> exact ⟨by decide, by decide +kernel, by decide +kernel⟩
  have hcustom : (Settings.ofCommands overriding).customFields =
      FieldLine.insertAll .empty ["User-Agent=b", "a=b"] := by
    decide +kernel
  obtain ⟨-, hmem⟩ := hfields ["User-Agent=b", "a=b"] (by
    rw [hcustom]
    exact FieldLine.addAll_of_wellFormed hlines .empty)
  have hentries : (Settings.ofCommands overriding).customFields.entries =
      [(⟨"a"⟩, ⟨[0x62]⟩), (userAgentName, ⟨[0x62]⟩)] := by
    decide +kernel
  refine ⟨client, hreply, hheader.trans (by decide +kernel), htimeout, fun value => ?_⟩
  rw [hmem, hentries]
  simp [userAgentName]

end ClientBuilder

end HeaderScan.Http
