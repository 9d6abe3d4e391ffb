import HeaderScan.Proofs.Config.Merge
import HeaderScan.Proofs.Program.Checks
import HeaderScan.Proofs.Text.Lines
import HeaderScan.Proofs.Text.Utf8
import HeaderScan.Targets
import Mathlib.Data.List.DropRight

/-!
# Which hosts are scanned

A hosts file names one host a line, and what it names are texts of a certain form. The
hosts of the command line, of the configuration and of the hosts file stand one after the
other; the default hosts are scanned only where nothing names any hosts.
-/

namespace HeaderScan

namespace Text

/-- Nothing is blank at the ends of what is left between the blanks. -/
theorem trimChars_trimChars (chars : List Char) :
    trimChars (trimChars chars) = trimChars chars := by
  have hends (chars : List Char) :
      trimChars chars = (chars.dropWhile isBlank).rdropWhile isBlank := rfl
  rw [hends (trimChars chars), hends chars]
  have hstart : ((chars.dropWhile isBlank).rdropWhile isBlank).dropWhile isBlank =
      (chars.dropWhile isBlank).rdropWhile isBlank := by
    rw [List.dropWhile_eq_self_iff]
    intro hpos
    have hfront := List.rdropWhile_prefix isBlank (l := chars.dropWhile isBlank)
    have hlong := hpos.trans_le hfront.length_le
    rw [hfront.getElem hpos]
    exact List.dropWhile_get_zero_not isBlank chars hlong
  rw [hstart, List.rdropWhile_idempotent]

/-- Between the blanks there is only what was there before. -/
theorem trimChars_subset (chars : List Char) : trimChars chars ⊆ chars := by
  intro c hc
  rw [trimChars, List.mem_reverse] at hc
  have hkept := List.mem_reverse.mp (List.dropWhile_subset _ hc)
  exact List.dropWhile_subset _ hkept

end Text

namespace HostsFile

/-- A host that a hosts file can name. -/
structure Nameable (host : Host) : Prop where
  /-- It is on one line. -/
  newline : '\n' ∉ host.text.toList
  /-- It is not empty. -/
  ne_empty : host.text ≠ ""
  /-- Nothing at its ends is blank. -/
  trimmed : Text.trim host.text = host.text
  /-- It is no comment. -/
  comment : isComment host.text = false

/-- A hosts file names nothing else. -/
theorem nameable_of_mem_hosts {text : String} {host : Host} (h : host ∈ hosts text) :
    Nameable host := by
  obtain ⟨name, hname, rfl⟩ := List.mem_map.mp h
  obtain ⟨hline, hkept⟩ := List.mem_filter.mp hname
  obtain ⟨line, hmem, rfl⟩ := List.mem_map.mp hline
  rw [Bool.and_eq_true, Bool.not_eq_true', Bool.not_eq_true'] at hkept
  obtain ⟨hempty, hcomment⟩ := hkept
  constructor
  · intro hnewline
    rw [String.toList_ofList] at hnewline
    exact Text.not_mem_of_mem_splitOn hmem (Text.trimChars_subset line hnewline)
  · intro heq
    change String.ofList (Text.trimChars line) = "" at heq
    rw [heq] at hempty
    cases hempty
  · rw [Text.trim, String.toList_ofList, Text.trimChars_trimChars]
  · exact hcomment

/-- A hosts file is read line by line: the first line names the host that is left between its
blanks, unless nothing is left or it is a comment. -/
theorem hosts_line (line later : String) (hline : '\n' ∉ line.toList) :
    hosts (line ++ "\n" ++ later) =
      (if (!(Text.trim line).isEmpty && !isComment (Text.trim line)) = true
        then [⟨Text.trim line⟩] else []) ++ hosts later := by
  simp only [hosts]
  rw [Text.splitOn_line hline, List.map_cons, List.filter_cons]
  change List.map Host.mk (if (!(Text.trim line).isEmpty && !isComment (Text.trim line)) = true
    then _ else _) = _
  by_cases hkept : (!(Text.trim line).isEmpty && !isComment (Text.trim line)) = true
  · rw [if_pos hkept, if_pos hkept]
    rfl
  · rw [if_neg hkept, if_neg hkept]
    rfl

/-- A file with one host a line names these hosts, in their order and as often as they are
there. -/
theorem hosts_unlines {named : List Host} (h : ∀ host ∈ named, Nameable host) :
    hosts (Text.unlines (named.map Host.text)) = named := by
  induction named with
  | nil =>
    rw [List.map_nil, Text.unlines_nil]
    decide +kernel
  | cons host later ih =>
    obtain ⟨hhost, hlater⟩ := List.forall_mem_cons.mp h
    have hkept : (!(Text.trim host.text).isEmpty && !isComment (Text.trim host.text)) = true := by
      rw [hhost.trimmed, hhost.comment]
      simp [hhost.ne_empty]
    rw [List.map_cons, Text.unlines_cons, hosts_line _ _ hhost.newline, ih hlater, if_pos hkept,
      hhost.trimmed]
    rfl

end HostsFile

namespace Invocation

/-- Hosts on the command line are no setting. -/
theorem hosts_config {arguments : List (List UInt8)} {invocation : Invocation}
    (h : ofArguments arguments = .ok invocation) : invocation.config.hosts = [] := by
  unfold ofArguments at h
  obtain ⟨mentions, -, h⟩ := exists_of_bind h
  obtain ⟨-, -, h⟩ := exists_of_bind h
  obtain ⟨-, -, h⟩ := exists_of_bind h
  unfold ofSound at h
  obtain ⟨hosts, -, h⟩ := exists_of_bind h
  obtain ⟨configFile, -, h⟩ := exists_of_bind h
  obtain ⟨workers, -, h⟩ := exists_of_bind h
  obtain ⟨threads, -, h⟩ := exists_of_bind h
  obtain ⟨header, -, h⟩ := exists_of_bind h
  obtain ⟨userAgent, -, h⟩ := exists_of_bind h
  obtain ⟨requestHeaders, -, h⟩ := exists_of_bind h
  obtain ⟨timeout, -, h⟩ := exists_of_bind h
  cases h
  rfl

end Invocation

section Targets

variable {given : List Host} {config : Config} {path : FilePath}
  {read : FilePath → Except FileError (List UInt8)}

/-- The content of a file is text exactly when it is what is written for that text. -/
theorem read_text_iff {text : String} :
    read path >>= fileText = .ok text ↔ read path = .ok (Text.encodeUtf8 text) := by
  cases read path with
  | error cause => constructor <;> intro h <;> cases h
  | ok content =>
    rw [Except.ok.injEq, ← Text.decodeUtf8_eq_ok_iff]
    change (Text.decodeUtf8 content).mapError _ = _ ↔ _
    cases Text.decodeUtf8 content with
    | error error => constructor <;> intro h <;> cases h
    | ok other => constructor <;> intro h <;> cases h <;> rfl

/-- With a hosts file that is text, its hosts come last. -/
theorem targets_of_text {text : String} (hpath : config.hostsFile = some path)
    (hread : read path = .ok (Text.encodeUtf8 text)) :
    targets given config read =
      .ok (given ++ config.hosts.map Host.mk ++ HostsFile.hosts text) := by
  unfold targets
  simp only [hpath, read_text_iff.mpr hread]

/-- With a hosts file that is no text, or cannot be read, there are no hosts. -/
theorem targets_of_unreadable (given : List Host) (hpath : config.hostsFile = some path)
    (hread : ¬ ∃ text, read path = .ok (Text.encodeUtf8 text)) :
    ∃ cause, targets given config read = .error ⟨path, cause⟩ := by
  unfold targets
  simp only [hpath]
  cases htext : read path >>= fileText with
  | error cause => exact ⟨cause, rfl⟩
  | ok text => exact absurd ⟨text, read_text_iff.mp htext⟩ hread

/-- Without a hosts file, the default hosts stand in where no hosts are listed. -/
theorem targets_of_none (hnone : config.hostsFile = none) : targets given config read =
    .ok (if given ++ config.hosts.map Host.mk = [] then defaultHosts
      else given ++ config.hosts.map Host.mk) := by
  unfold targets
  rw [hnone]

/-- Only the hosts file is read. -/
theorem targets_congr {other : FilePath → Except FileError (List UInt8)}
    (h : ∀ path, config.hostsFile = some path → other path = read path) :
    targets given config other = targets given config read := by
  unfold targets
  cases hpath : config.hostsFile with
  | none => rfl
  | some path =>
    dsimp only
    rw [h path hpath]

/-- The hosts that are configured: those that are listed and, after them, those of the hosts
file if there is one. -/
inductive Configured (listed : List Host) (read : FilePath → Except FileError (List UInt8)) :
    Option FilePath → List Host → Prop where
  /-- There is no hosts file. -/
  | unfiled : Configured listed read none listed
  /-- The hosts file is text. -/
  | filed {path : FilePath} {text : String} (hread : read path = .ok (Text.encodeUtf8 text)) :
      Configured listed read (some path) (listed ++ HostsFile.hosts text)

/-- The default hosts are scanned, without being configured, exactly where nothing is. -/
theorem targets_default_iff : targets given config read = .ok defaultHosts ∧
      ¬ Configured (given ++ config.hosts.map Host.mk) read config.hostsFile defaultHosts ↔
    given = [] ∧ config.hosts = [] ∧ config.hostsFile = none := by
  constructor
  · rintro ⟨htargets, hunconfigured⟩
    cases hpath : config.hostsFile with
    | some path =>
      exfalso
      rw [hpath] at hunconfigured
      by_cases htext : ∃ text, read path = .ok (Text.encodeUtf8 text)
      · obtain ⟨text, hread⟩ := htext
        rw [targets_of_text hpath hread, Except.ok.injEq] at htargets
        exact hunconfigured (htargets ▸ .filed hread)
      · obtain ⟨cause, herror⟩ := targets_of_unreadable given hpath htext
        cases herror.symm.trans htargets
    | none =>
      rw [hpath] at hunconfigured
      rw [targets_of_none hpath, Except.ok.injEq] at htargets
      by_cases hlisted : given ++ config.hosts.map Host.mk = []
      · obtain ⟨hgiven, hhosts⟩ := List.append_eq_nil_iff.mp hlisted
        exact ⟨hgiven, List.map_eq_nil_iff.mp hhosts, rfl⟩
      · rw [if_neg hlisted] at htargets
        exact absurd (htargets ▸ .unfiled) hunconfigured
  · rintro ⟨rfl, hhosts, hnone⟩
    rw [targets_of_none hnone, hnone, hhosts]
    refine ⟨rfl, fun hconfigured => ?_⟩
    cases hconfigured

end Targets

/-- The hosts to scan are determined by what is configured. The hosts file of the command line
comes before that of the configuration file, and only the first of them is read. If there is
one, then there are hosts exactly when it is text, and its hosts come after those of the
command line and of the configuration file, all of them in their order and as often as they
are there, even if there are none. Without one, the default hosts stand in where no hosts are
listed, and they do so only where nothing is configured anywhere. -/
theorem targets_determined {arguments : List (List UInt8)} {invocation : Invocation}
    (hinvocation : Invocation.ofArguments arguments = .ok invocation) (given : List Host)
    (found : Config) (read : FilePath → Except FileError (List UInt8)) :
    let file := invocation.config.hostsFile.or found.hostsFile
    let listed := given ++ found.hosts.map Host.mk
    let hosts := targets given (invocation.config.merge found)
    (∀ path, file = some path →
      (∀ text, read path = .ok (Text.encodeUtf8 text) →
        hosts read = .ok (listed ++ HostsFile.hosts text)) ∧
      ((∃ error, hosts read = .error error) ↔
        ¬ ∃ text, read path = .ok (Text.encodeUtf8 text)) ∧
      (∀ named : List Host, (∀ host ∈ named, HostsFile.Nameable host) →
        read path = .ok (Text.encodeUtf8 (Text.unlines (named.map Host.text))) →
        hosts read = .ok (listed ++ named)) ∧
      ∀ other, other path = read path → hosts other = hosts read) ∧
    (file = none → hosts read = .ok (if listed = [] then defaultHosts else listed)) ∧
    (hosts read = .ok defaultHosts ∧ ¬ Configured listed read file defaultHosts ↔
      given = [] ∧ found.hosts = [] ∧
        invocation.config.hostsFile = none ∧ found.hostsFile = none) := by
  intro file listed hosts
  have hfile : (invocation.config.merge found).hostsFile = file := Config.prefer_none _ _
  have hhosts : (invocation.config.merge found).hosts = found.hosts := by
    have hmerged : (invocation.config.merge found).hosts =
        Config.prefer [] invocation.config.hosts found.hosts := rfl
    rw [hmerged, Invocation.hosts_config hinvocation, Config.prefer_standard_left]
  have hlisted : given ++ (invocation.config.merge found).hosts.map Host.mk = listed := by
    rw [hhosts]
  refine ⟨fun path hpath => ?_, fun hnone => ?_, ?_⟩
  · rw [← hfile] at hpath
    have htext (text : String) (hread : read path = .ok (Text.encodeUtf8 text)) :
        hosts read = .ok (listed ++ HostsFile.hosts text) := by
      rw [← hlisted]
      exact targets_of_text hpath hread
    refine ⟨htext, ⟨?_, ?_⟩, ?_, ?_⟩
    · rintro ⟨error, herror⟩ ⟨text, hread⟩
      cases herror.symm.trans (htext text hread)
    · intro hread
      obtain ⟨cause, herror⟩ := targets_of_unreadable given hpath hread
      exact ⟨_, herror⟩
    · intro named hnamed hread
      rw [htext _ hread, HostsFile.hosts_unlines hnamed]
    · intro other hother
      refine targets_congr fun effective heffective => ?_
      cases hpath.symm.trans heffective
      exact hother
  · rw [← hlisted]
    exact targets_of_none (hfile.trans hnone)
  · rw [← hlisted, ← hfile, targets_default_iff]
    have hnone : (invocation.config.merge found).hostsFile = none ↔
        invocation.config.hostsFile = none ∧ found.hostsFile = none := by
      rw [hfile]
      exact Option.or_eq_none_iff
    rw [hnone, hhosts]

/-- The only file there is. -/
def soleFile (path : FilePath) (content : List UInt8) (wanted : FilePath) :
    Except FileError (List UInt8) :=
  if wanted = path then .ok content else .error .notFound

/-- A configuration file with a host and a hosts file. -/
def filedConfig : Config :=
  { Config.standard with hosts := ["b"], hostsFile := some (.ofText "b.txt") }

/-- The case of two hosts files, of which only the one from the command line is there. -/
theorem targets_determined_both : ∃ invocation,
    Invocation.ofArguments (["-f", "a.txt", "a"].map Text.encodeUtf8) = .ok invocation ∧
    targets (invocation.hosts.map Host.mk) (invocation.config.merge filedConfig)
        (soleFile (.ofText "a.txt") (Text.encodeUtf8 "c\n# d\n\n b\nc\n")) =
      .ok [⟨"a"⟩, ⟨"b"⟩, ⟨"c"⟩, ⟨"b"⟩, ⟨"c"⟩] := by
  have hgiven : ((Invocation.ofArguments (["-f", "a.txt", "a"].map Text.encodeUtf8)).toOption.bind
      fun invocation => some (invocation.hosts, invocation.config.hostsFile)) =
      some (["a"], some (.ofText "a.txt")) := by
    decide +kernel
  obtain ⟨invocation, hinvocation, hgiven⟩ := exists_of_toOption_bind hgiven
  obtain ⟨hhosts, hpath⟩ := Prod.mk.inj (Option.some.inj hgiven)
  obtain ⟨hfiled, -, -⟩ := targets_determined hinvocation (invocation.hosts.map Host.mk) filedConfig
    (soleFile (.ofText "a.txt") (Text.encodeUtf8 "c\n# d\n\n b\nc\n"))
  rw [hpath, Option.some_or] at hfiled
  obtain ⟨htext, -⟩ := hfiled _ rfl
  have hnamed : HostsFile.hosts "c\n# d\n\n b\nc\n" = [⟨"c"⟩, ⟨"b"⟩, ⟨"c"⟩] := by
    decide +kernel
  refine ⟨invocation, hinvocation, (htext _ (if_pos rfl)).trans ?_⟩
  rw [hnamed, hhosts]
  rfl

end HeaderScan
