import HeaderScan.Proofs.Program.Endings

/-!
# The checks before a scan

The settings of the program pass seven checks, one after the other, before anything is
written or any host is asked. `Check.fault?` says for each check by itself what is wrong; the
program reports the fault of the first check that finds one, and with no fault the scan
decides nothing about the exit code any more.
-/

namespace HeaderScan

/-- The checks of the settings, in their order. -/
inductive Check where
  /-- The configuration file, if there is one, holds a configuration. -/
  | configFile
  /-- The hosts file, if one is configured, can be read as text. -/
  | hostsFile
  /-- There is a thread. -/
  | threads
  /-- Every further field of the requests is one. -/
  | requestFields
  /-- There is a worker. -/
  | workers
  /-- The field to look for has a name. -/
  | header
  /-- The user agent can be the value of a field. -/
  | userAgent
deriving DecidableEq

namespace Check

/-- The checks that are made before there is a scan. -/
def early : List Check := [configFile, hostsFile, threads, requestFields, workers]

/-- The checks that are made with every client. -/
def late : List Check := [header, userAgent]

/-- All checks, in the order in which they are made. -/
def all : List Check := early ++ late

end Check

/-- What went wrong, if something did. -/
def errorOf? {ε α : Type} : Except ε α → Option ε
  | .ok _ => none
  | .error error => some error

section errorOf

variable {ε ε' α β : Type} {result : Except ε α}

/-- What went wrong is the error. -/
theorem errorOf?_eq_some {error : ε} : errorOf? result = some error ↔ result = .error error := by
  cases result <;> simp [errorOf?]

/-- If nothing went wrong there is a value. -/
theorem exists_of_errorOf? (h : errorOf? result = none) : ∃ value, result = .ok value := by
  cases result with
  | error error => cases h
  | ok value => exact ⟨value, rfl⟩

/-- A step that fails as its check does comes first, and the later checks are left to what
follows. -/
theorem errorOf?_bind {κ : Type} {check : κ} {later : List κ} {fault? : κ → Option ε}
    {next : α → Except ε β} (hcheck : errorOf? result = fault? check)
    (hnext : ∀ value, result = .ok value → errorOf? (next value) = later.findSome? fault?) :
    errorOf? (result >>= next) = (check :: later).findSome? fault? := by
  rw [List.findSome?_cons, ← hcheck]
  cases result with
  | error error => rfl
  | ok value => exact hnext value rfl

/-- What is computed from a value that can be had. -/
theorem exists_of_toOption_bind {compute : α → Option β} {value : β}
    (h : result.toOption.bind compute = some value) :
    ∃ first, result = .ok first ∧ compute first = some value := by
  cases result with
  | error error => cases h
  | ok first => exact ⟨first, rfl, h⟩

/-- Two things that were done one after the other were both done. -/
theorem exists_of_bind {next : α → Except ε β} {value : β} (h : result >>= next = .ok value) :
    ∃ first, result = .ok first ∧ next first = .ok value := by
  cases result with
  | error error => cases h
  | ok first => exact ⟨first, rfl, h⟩

/-- An error of two things that are done one after the other is renamed in each of them. -/
theorem mapError_bind (next : α → Except ε β) (rename : ε → ε') :
    (result >>= next).mapError rename =
      result.mapError rename >>= fun value => (next value).mapError rename := by
  cases result <;> rfl

/-- Where an error would be renamed there is the same value. -/
theorem eq_ok_of_mapError {rename : ε → ε'} {value : α} (h : result.mapError rename = .ok value) :
    result = .ok value := by
  cases result with
  | error error => cases h
  | ok other =>
    cases h
    rfl

/-- A renamed error is renamed in what went wrong. -/
@[simp] theorem errorOf?_mapError (rename : ε → ε') :
    errorOf? (result.mapError rename) = (errorOf? result).map rename := by
  cases result <;> rfl

end errorOf

/-- The configuration of a scan has the hosts that it is made for. -/
theorem ScanConfig.hosts_of_ofHosts {hosts : List Host} {workers : Nat} {config : ScanConfig}
    (h : ofHosts hosts workers = .ok config) : config.hosts = hosts := by
  unfold ofHosts at h
  split at h
  case isTrue =>
    cases h
    rfl
  case isFalse => cases h

namespace Http.ClientBuilder

/-- A text that is no name between its blanks is refused as given. -/
theorem errorOf?_canonicalName (name : String) : errorOf? (canonicalName name) =
    if FieldName.isName (Text.trim name).toList then none
    else some (.invalidHeaderName name) := by
  -- `rw` would compute with the longest length of a name, which takes long.
  delta canonicalName FieldName.ofText?
  by_cases hname : FieldName.isName (Text.trim name).toList = true
  · rw [if_pos hname, if_pos hname]
    rfl
  · rw [if_neg hname, if_neg hname]
    rfl

end Http.ClientBuilder

namespace Invocation

variable {read : FilePath → Except FileError (List UInt8)} {invocation : Invocation}

/-- The settings of the command line, completed by those of the configuration file if it can
be used. -/
def effective (read : FilePath → Except FileError (List UInt8)) (invocation : Invocation) :
    Config :=
  match read (.ofText invocation.configFile) with
  | .error _ => invocation.config
  | .ok content =>
    match Config.ofBytes content with
    | .error _ => invocation.config
    | .ok found => invocation.config.merge found

/-- Why the file at a path cannot be read as text, if it cannot. -/
def unreadable? (read : FilePath → Except FileError (List UInt8)) (path : FilePath) :
    Option FileError :=
  match read path with
  | .error cause => some cause
  | .ok content => (errorOf? (Text.decodeUtf8 content)).map fun _ => .notText

/-- What a check has against the settings. -/
def fault? (read : FilePath → Except FileError (List UInt8)) (invocation : Invocation) :
    Check → Option Failure
  | .configFile =>
    match read (.ofText invocation.configFile) with
    | .error .notFound => none
    | .error cause => some (.config (.unreadable cause))
    | .ok content => (errorOf? (Config.ofBytes content)).map fun error => .config (.malformed error)
  | .hostsFile =>
    (invocation.effective read).hostsFile.bind fun path =>
      (unreadable? read path).map fun cause => .hostsFile ⟨path, cause⟩
  | .threads => if (invocation.effective read).threads = some 0 then some .noThreads else none
  | .requestFields =>
    ((invocation.effective read).requestHeaders.findSome? fun line =>
      errorOf? (Http.FieldLine.parse line)).map .requestField
  | .workers =>
    if (invocation.effective read).workers = 0 then some (.scan (.invalidWorkerCount 0)) else none
  | .header =>
    let name := (invocation.effective read).header
    if Http.FieldName.isName (Text.trim name).toList then none
    else some (.scan (.invalidHeaderName name))
  | .userAgent =>
    if (Text.encodeUtf8 (invocation.effective read).userAgent).all Http.FieldValue.isValueByte then
      none
    else some (.scan .invalidHeaderValue)

/-- Loading the configuration file fails exactly when its check does. -/
theorem errorOf?_settings : errorOf? ((invocation.settings read).mapError Failure.config) =
    invocation.fault? read .configFile := by
  rw [settings, fault?, Config.load]
  cases read (.ofText invocation.configFile) with
  | error cause => cases cause <;> rfl
  | ok content =>
    dsimp only
    cases Config.ofBytes content <;> rfl

/-- Settings that can be had are the effective ones. -/
theorem settings_eq {config : Config}
    (h : (invocation.settings read).mapError Failure.config = .ok config) :
    config = invocation.effective read := by
  rw [settings, Config.load] at h
  rw [effective]
  cases hread : read (.ofText invocation.configFile) with
  | error cause =>
    rw [hread] at h
    cases cause <;> cases h
    rfl
  | ok content =>
    rw [hread] at h
    simp only at h ⊢
    cases hfound : Config.ofBytes content with
    | error error =>
      rw [hfound] at h
      cases h
    | ok found =>
      rw [hfound] at h
      cases h
      rfl

/-- What cannot be read as text cannot be read for its hosts. -/
theorem errorOf?_fileText (path : FilePath) :
    errorOf? (read path >>= fileText) = unreadable? read path := by
  rw [unreadable?]
  cases read path with
  | error cause => rfl
  | ok content => exact errorOf?_mapError _

/-- The hosts cannot be had exactly when the check of the hosts file fails. -/
theorem errorOf?_targets (given : List Host) :
    errorOf? ((targets given (invocation.effective read) read).mapError Failure.hostsFile) =
      invocation.fault? read .hostsFile := by
  rw [targets, fault?]
  cases (invocation.effective read).hostsFile with
  | none => rfl
  | some path =>
    rw [Option.bind_some, ← errorOf?_fileText]
    dsimp only
    cases read path >>= fileText <;> rfl

/-- The first line that is no field is what is wrong with the further fields. -/
theorem errorOf?_addAll (map : Http.FieldMap) (lines : List String) :
    errorOf? (Http.FieldLine.addAll map lines) =
      lines.findSome? fun line => errorOf? (Http.FieldLine.parse line) := by
  induction lines generalizing map with
  | nil => rfl
  | cons line rest ih =>
    rw [Http.FieldLine.addAll]
    exact errorOf?_bind rfl fun field _ => ih (map.insert field.1 field.2)

/-- There is no scan without a worker. -/
theorem errorOf?_ofHosts (hosts : List Host) :
    errorOf? ((ScanConfig.ofHosts hosts (invocation.effective read).workers).mapError Failure.scan) =
      invocation.fault? read .workers := by
  rw [ScanConfig.ofHosts, fault?]
  cases (invocation.effective read).workers with
  | zero => rfl
  | succ workers => rfl

/-- There is no job exactly when one of the early checks fails, and the first of them says
why. -/
theorem errorOf?_job (read : FilePath → Except FileError (List UInt8))
    (invocation : Invocation) :
    errorOf? (invocation.job read) = Check.early.findSome? (invocation.fault? read) := by
  rw [job, Check.early]
  refine errorOf?_bind errorOf?_settings fun config hconfig => ?_
  obtain rfl := settings_eq hconfig
  refine errorOf?_bind (errorOf?_targets _) fun hosts _ => ?_
  by_cases hthreads : (invocation.effective read).threads = some 0
  · rw [List.findSome?_cons, fault?, if_pos hthreads, if_pos hthreads]
    rfl
  · rw [List.findSome?_cons, fault?, if_neg hthreads, if_neg hthreads]
    refine errorOf?_bind ?_ fun fields _ => ?_
    · rw [errorOf?_mapError, Http.FieldLine.parseAll, errorOf?_addAll]
      rfl
    · exact errorOf?_bind (errorOf?_ofHosts hosts) fun scanConfig _ => rfl

/-- A job has its effective settings. -/
theorem exists_of_job {job : Job} (h : invocation.job read = .ok job) : ∃ fields,
    targets (invocation.hosts.map Host.mk) (invocation.effective read) read =
      .ok job.config.hosts ∧
    job.builder = clientBuilder (invocation.effective read) fields ∧
    job.verbose = (invocation.effective read).verbose := by
  rw [Invocation.job] at h
  obtain ⟨config, hconfig, h⟩ := exists_of_bind h
  obtain rfl := settings_eq hconfig
  obtain ⟨hosts, hhosts, h⟩ := exists_of_bind h
  by_cases hthreads : (invocation.effective read).threads = some 0
  · rw [if_pos hthreads] at h
    cases h
  · rw [if_neg hthreads] at h
    obtain ⟨fields, -, h⟩ := exists_of_bind h
    obtain ⟨scanConfig, hscan, h⟩ := exists_of_bind h
    cases h
    refine ⟨fields, ?_, rfl, rfl⟩
    rw [eq_ok_of_mapError hhosts, ScanConfig.hosts_of_ofHosts (eq_ok_of_mapError hscan)]

/-- A client cannot be made exactly when one of the late checks fails, and the first of them
says why. -/
theorem errorOf?_build (fields : Http.FieldMap) :
    errorOf? ((clientBuilder (invocation.effective read) fields).build.mapError Failure.scan) =
      Check.late.findSome? (invocation.fault? read) := by
  rw [Http.ClientBuilder.build, mapError_bind, Check.late]
  refine errorOf?_bind ?_ fun header _ => ?_
  · rw [errorOf?_mapError, Http.ClientBuilder.errorOf?_canonicalName, fault?]
    exact apply_ite (Option.map Failure.scan) _ _ _
  · have hvalue : Http.FieldValue.ofText? ((clientBuilder (invocation.effective read)
        fields).userAgent.getD Http.defaultUserAgent) =
        if (Text.encodeUtf8 (invocation.effective read).userAgent).all
          Http.FieldValue.isValueByte then some ⟨_⟩ else none := rfl
    rw [List.findSome?_cons, fault?, hvalue]
    by_cases hagent : (Text.encodeUtf8 (invocation.effective read).userAgent).all
        Http.FieldValue.isValueByte = true
    · rw [if_pos hagent, if_pos hagent]
      rfl
    · rw [if_neg hagent, if_neg hagent]
      rfl

/-- What the first check says that finds a fault. -/
def firstFault? (read : FilePath → Except FileError (List UInt8)) (invocation : Invocation) :
    Option Failure :=
  Check.all.findSome? (invocation.fault? read)

/-- Why there is no job is what the first check says. -/
theorem firstFault?_of_error {failure : Failure} (hjob : invocation.job read = .error failure) :
    invocation.firstFault? read = some failure := by
  have hearly := errorOf?_job read invocation
  rw [firstFault?, Check.all, List.findSome?_append, ← hearly, hjob]
  rfl

/-- When there is a job, only its clients can have a fault. -/
theorem firstFault?_of_ok {job : Job} (hjob : invocation.job read = .ok job) :
    invocation.firstFault? read = (errorOf? job.builder.build).map .scan := by
  have hearly := errorOf?_job read invocation
  obtain ⟨fields, -, hbuilder, -⟩ := exists_of_job hjob
  rw [firstFault?, Check.all, List.findSome?_append, ← hearly, hjob, ← errorOf?_build fields,
    hbuilder, errorOf?_mapError]
  exact Option.none_or

end Invocation

/-- The text is empty or ends with the end of a line. -/
def EndsLine (text : String) : Prop := text = "" ∨ ∃ front, text = front ++ "\n"

/-- A text and its last line. -/
theorem endsLine_append_newline (front : String) : EndsLine (front ++ "\n") := .inr ⟨front, rfl⟩

/-- Lines that follow lines. -/
theorem EndsLine.append {text later : String} (h : EndsLine text) (hlater : EndsLine later) :
    EndsLine (text ++ later) := by
  rcases hlater with rfl | ⟨front, rfl⟩
  · rwa [String.append_empty]
  · exact .inr ⟨text ++ front, String.append_assoc.symm⟩

/-- Any number of lines. -/
theorem endsLine_join {lines : List String} (h : ∀ line ∈ lines, EndsLine line) :
    EndsLine (String.join lines) := by
  induction lines with
  | nil => exact .inl String.join_nil
  | cons line rest ih =>
    rw [String.join_cons]
    obtain ⟨hline, hrest⟩ := List.forall_mem_cons.mp h
    exact hline.append (ih hrest)

namespace Program

variable {world : World} {arguments : List (List UInt8)} {invocation : Invocation}
  {outcome : Outcome} {failure : Failure}

/-- The last line of a report. -/
theorem exists_report (verbose colors : Bool) (responses : List Response) (summary : Summary) :
    ∃ before, EndsLine before ∧
      report verbose colors responses summary = before ++ "All done\n" := by
  refine ⟨_, EndsLine.append (endsLine_join ?_) ?_, rfl⟩
  · intro line hmem
    obtain ⟨response, -, rfl⟩ := List.mem_map.mp hmem
    exact endsLine_append_newline _
  · cases verbose with
    | true => exact endsLine_append_newline _
    | false => exact .inl rfl

/-- With a fault there is no ending but its report. -/
theorem Ends.of_fault (h : Ends world arguments outcome)
    (hinvocation : Invocation.ofArguments arguments = .ok invocation)
    (hfault : invocation.firstFault? world.read = some failure) :
    outcome = .failure failure.report := by
  cases h with
  | refused hrefusal => cases hrefusal.symm.trans hinvocation
  | unfit hother hjob =>
    cases hother.symm.trans hinvocation
    cases (Invocation.firstFault?_of_error hjob).symm.trans hfault
    rfl
  | scanned hscans hresult =>
    rw [Invocation.firstFault?_of_ok (hscans.job_eq hinvocation)] at hfault
    obtain ⟨error, hbuild, rfl⟩ := Option.map_eq_some_iff.mp hfault
    rw [(hscans.launched.error_iff hresult error).mpr (errorOf?_eq_some.mp hbuild)]
    rfl

/-- With a fault no scan does anything. -/
theorem Scans.untouched {job : Job} {launch : Launch ScanError Http.Client}
    (h : Scans world arguments job launch)
    (hinvocation : Invocation.ofArguments arguments = .ok invocation)
    (hfault : invocation.firstFault? world.read = some failure) : launch.scan.Untouched := by
  rw [Invocation.firstFault?_of_ok (h.job_eq hinvocation)] at hfault
  obtain ⟨error, hbuild, -⟩ := Option.map_eq_some_iff.mp hfault
  have hlaunched := h.launched
  exact (hlaunched.of_error job.config.workers_pos (fun k hk => by omega)
    (errorOf?_eq_some.mp hbuild)).1

/-- Without a fault every ending is the report of a scan that has returned. -/
theorem Ends.of_no_fault (h : Ends world arguments outcome)
    (hinvocation : Invocation.ofArguments arguments = .ok invocation)
    (hfault : invocation.firstFault? world.read = none) :
    ∃ job launch, Scans world arguments job launch ∧
      launch.result? = some (.ok launch.scan) ∧
      outcome = .success
        (report job.verbose world.colors launch.scan.responses launch.scan.summary) := by
  cases h with
  | refused hrefusal => cases hrefusal.symm.trans hinvocation
  | unfit hother hjob =>
    cases hother.symm.trans hinvocation
    cases (Invocation.firstFault?_of_error hjob).symm.trans hfault
  | @scanned job launch result hscans hresult =>
    rw [Invocation.firstFault?_of_ok (hscans.job_eq hinvocation)] at hfault
    obtain ⟨client, hbuild⟩ := exists_of_errorOf? (Option.map_eq_none_iff.mp hfault)
    obtain ⟨rfl, -⟩ := hscans.launched.of_isOk (fun _ _ => by rw [hbuild]; rfl) hresult
    exact ⟨job, launch, hscans, hresult, rfl⟩

/-- The settings are checked before anything else happens. For every command line that is
carried out, whatever the files hold, the hosts answer, the schedule is and the user
interrupts: with a fault the program can only report the first one on standard error and exit
with code one, and it starts no worker and no probe; without a fault it can only exit with
code zero after it has written its last line. A run ends in one of these ways. -/
theorem setup_checked (world : World)
    (hinvocation : Invocation.ofArguments arguments = .ok invocation) :
    Ends world arguments (run world arguments) ∧
    (∀ failure, invocation.firstFault? world.read = some failure →
      (∀ outcome, Ends world arguments outcome →
        outcome.exitCode = 1 ∧ outcome.stdout = "" ∧ outcome.stderr = failure.report) ∧
      ∀ job launch, Scans world arguments job launch → launch.scan.Untouched) ∧
    (invocation.firstFault? world.read = none →
      ∀ outcome, Ends world arguments outcome → outcome.exitCode = 0 ∧
        ∃ before, EndsLine before ∧ outcome.stdout = before ++ "All done\n") := by
  refine ⟨ends_run world arguments, fun failure hfault => ⟨?_, ?_⟩, fun hfault => ?_⟩
  · intro outcome hends
    rw [hends.of_fault hinvocation hfault]
    exact ⟨rfl, rfl, rfl⟩
  · exact fun job launch hscans => hscans.untouched hinvocation hfault
  · intro outcome hends
    obtain ⟨job, launch, -, -, rfl⟩ := hends.of_no_fault hinvocation hfault
    exact ⟨rfl, exists_report _ _ _ _⟩

/-- A machine without files and without a network. -/
def bareWorld (interruptAt : Option Nat) : World :=
  ⟨fun _ => .error .notFound, .absent, interruptAt, false⟩

/-- Five checks would fail; that of the hosts file is the first of them. -/
def faultyArguments : List (List UInt8) :=
  ["--hosts-file", "none.txt", "--threads", "0", "--workers", "0", "--header", "a b",
    "--user-agent", "\n"].map Text.encodeUtf8

/-- No check fails. -/
def plainArguments : List (List UInt8) := ["--verbose", "http://a", "b"].map Text.encodeUtf8

/-- The cases of a command line with five faults and of one with none, whose scan is
interrupted at once. -/
theorem setup_checked_faulty :
    (∀ outcome, Ends (bareWorld none) faultyArguments outcome → outcome.exitCode = 1 ∧
      outcome.stdout = "" ∧ outcome.stderr = "Error: Cannot read hosts file none.txt\n\n" ++
        "Caused by:\n    No such file or directory (os error 2)\n") ∧
    Ends (bareWorld (some 0)) plainArguments (run (bareWorld (some 0)) plainArguments) ∧
    ∀ outcome, Ends (bareWorld (some 0)) plainArguments outcome → outcome.exitCode = 0 ∧
      ∃ before, EndsLine before ∧ outcome.stdout = before ++ "All done\n" := by
  constructor
  · have hreport : ((Invocation.ofArguments faultyArguments).toOption.bind fun invocation =>
        (invocation.firstFault? (bareWorld none).read).map Failure.report) =
        some ("Error: Cannot read hosts file none.txt\n\n" ++
          "Caused by:\n    No such file or directory (os error 2)\n") := by
      decide +kernel
    obtain ⟨invocation, hinvocation, hreport⟩ := exists_of_toOption_bind hreport
    obtain ⟨failure, hfault, hreport⟩ := Option.map_eq_some_iff.mp hreport
    obtain ⟨-, hfaulty, -⟩ := setup_checked (bareWorld none) hinvocation
    intro outcome hends
    obtain ⟨hcode, hstdout, hstderr⟩ := (hfaulty failure hfault).1 outcome hends
    exact ⟨hcode, hstdout, hstderr.trans hreport⟩
  · have hnone : ((Invocation.ofArguments plainArguments).toOption.bind fun invocation =>
        some (invocation.firstFault? (bareWorld (some 0)).read).isNone) = some true := by
      decide +kernel
    obtain ⟨invocation, hinvocation, hnone⟩ := exists_of_toOption_bind hnone
    obtain ⟨hends, -, hfine⟩ := setup_checked (bareWorld (some 0)) hinvocation
    exact ⟨hends, hfine (Option.isNone_iff_eq_none.mp (Option.some.inj hnone))⟩

end Program

end HeaderScan
