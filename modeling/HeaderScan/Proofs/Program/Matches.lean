import HeaderScan.Proofs.Program.Report
import HeaderScan.Proofs.Program.Targets
import HeaderScan.Proofs.Scan.Reporting

/-!
# Matches and lines

A report without statistics is written with a line for each match and a last one. But a host
is printed as it was given, and the reader of URLs passes over ends of lines: a host that was
given with one is scanned, and its match is printed on more than one line. A hosts file gives
no such host.
-/

namespace HeaderScan

namespace Response

/-- The line of a match ends at no place but those at which its host or its value does. -/
theorem count_line {response : Response} {value : String} (h : response.status = .found value) :
    response.line.toList.count '\n' =
      response.host.text.toList.count '\n' + value.toList.count '\n' := by
  have hline : response.line = "Found on host " ++ response.host.text ++ " " ++ value := by
    rw [line, h]
  have hstart : "Found on host ".toList.count '\n' = 0 := by decide
  have hblank : " ".toList.count '\n' = 0 := by decide
  rw [hline, String.toList_append, String.toList_append, String.toList_append, List.count_append,
    List.count_append, List.count_append, hstart, hblank]
  omega

/-- A match carries a value. -/
theorem exists_value {response : Response} (h : response.status.isFound = true) :
    ∃ value, response.status = .found value := by
  cases hstatus : response.status with
  | found value => exact ⟨value, rfl⟩
  | missing | timeout | error | cancelled =>
    rw [hstatus] at h
    cases h

end Response

namespace Scan

/-- Every response that is reported is about a host of the list. -/
theorem Reachable.host_mem {config : ScanConfig} {scan : Scan} (h : Reachable config scan)
    {response : Response} (hmem : response ∈ scan.responses) :
    response.host ∈ config.hosts := by
  obtain ⟨delivery, hdelivery, rfl⟩ := List.mem_map.mp hmem
  have hentry : delivery.response.host ∈
      entriesOf delivery.worker (scan.reported.map Delivery.place) :=
    mem_entriesOf.mpr (List.mem_map_of_mem hdelivery)
  have htaken := mem_entriesOf.mp ((h.places_isPrefix _).subset hentry)
  have hfront := List.mem_map_of_mem (f := Prod.snd) htaken
  rw [← h.ordered.take_hosts] at hfront
  exact List.mem_of_mem_take hfront

end Scan

/-- The default hosts are hosts that a hosts file can name. -/
theorem nameable_of_mem_defaultHosts {host : Host} (h : host ∈ defaultHosts) :
    HostsFile.Nameable host := by
  have hall : ∀ host ∈ defaultHosts, '\n' ∉ host.text.toList ∧ host.text ≠ "" ∧
      Text.trim host.text = host.text ∧ HostsFile.isComment host.text = false := by
    decide +kernel
  obtain ⟨hnewline, hempty, htrimmed, hcomment⟩ := hall host h
  exact ⟨hnewline, hempty, htrimmed, hcomment⟩

/-- A host that is scanned comes from the command line, from the configuration, or is one that a
hosts file can name. -/
theorem mem_of_targets {given hosts : List Host} {config : Config} {host : Host}
    {read : FilePath → Except FileError (List UInt8)} (h : targets given config read = .ok hosts)
    (hmem : host ∈ hosts) :
    host ∈ given ++ config.hosts.map Host.mk ∨ HostsFile.Nameable host := by
  cases hpath : config.hostsFile with
  | none =>
    rw [targets_of_none hpath] at h
    cases h
    split at hmem
    case isTrue => exact .inr (nameable_of_mem_defaultHosts hmem)
    case isFalse => exact .inl hmem
  | some path =>
    by_cases htext : ∃ text, read path = .ok (Text.encodeUtf8 text)
    · obtain ⟨text, hread⟩ := htext
      rw [targets_of_text hpath hread] at h
      cases h
      rcases List.mem_append.mp hmem with hmem | hmem
      · exact .inl hmem
      · exact .inr (HostsFile.nameable_of_mem_hosts hmem)
    · obtain ⟨cause, herror⟩ := targets_of_unreadable given hpath htext
      cases herror.symm.trans h

namespace Program

variable {world : World} {arguments : List (List UInt8)} {invocation : Invocation} {job : Job}
  {launch : Launch ScanError Http.Client} {scan : Scan}

/-- Without statistics a report is a line for each match and a last one. -/
theorem report_eq_unlines (colors : Bool) (responses : List Response) (summary : Summary) :
    report false colors responses summary = Text.unlines
      ((responses.filter (·.status.isFound)).map Response.line ++ ["All done"]) := by
  have hlast : String.join (["All done"].map (· ++ "\n")) = "All done\n" := by decide +kernel
  rw [report, if_neg Bool.false_ne_true, String.append_empty, Text.unlines, List.map_append,
    String.join_append, List.map_map, hlast]
  rfl

/-- The hosts of a job have no end of a line in them when those of the command line and of the
configuration have none. -/
theorem Scans.newline_free (h : Scans world arguments job launch)
    (hinvocation : Invocation.ofArguments arguments = .ok invocation)
    (hlisted : ∀ text ∈ invocation.hosts ++ (invocation.effective world.read).hosts,
      '\n' ∉ text.toList) {host : Host} (hmem : host ∈ job.config.hosts) :
    '\n' ∉ host.text.toList := by
  obtain ⟨-, htargets, -⟩ := Invocation.exists_of_job (h.job_eq hinvocation)
  rcases mem_of_targets htargets hmem with hmem | hnameable
  · rw [← List.map_append] at hmem
    obtain ⟨text, htext, rfl⟩ := List.mem_map.mp hmem
    exact hlisted text htext
  · exact hnameable.newline

section Matches

variable {shown : List Response}
  (h : ∀ response ∈ shown, ∃ value, response.status = .found value ∧ '\n' ∉ value.toList)
include h

/-- Where no value has an end of a line in it, the line of a match has those of its host. -/
theorem count_line_of_mem {response : Response} (hmem : response ∈ shown) :
    response.line.toList.count '\n' = response.host.text.toList.count '\n' := by
  obtain ⟨value, hvalue, hnewline⟩ := h response hmem
  rw [Response.count_line hvalue, List.count_eq_zero.mpr hnewline, Nat.add_zero]

/-- What is written of matches has a line for each, a last one, and one for each end of a line
in a host. -/
theorem length_linesOf_matches :
    (Text.linesOf (Text.unlines (shown.map Response.line ++ ["All done"]))).length =
      shown.length + 1 +
        (shown.map fun response => response.host.text.toList.count '\n').sum := by
  have hlast : "All done".toList.count '\n' = 0 := by decide
  rw [Text.length_linesOf_unlines, List.length_append, List.length_map, List.map_append,
    List.sum_append, List.map_map, List.map_singleton, List.sum_singleton, hlast, Nat.add_zero]
  congr 2
  exact List.map_congr_left fun response hmem => count_line_of_mem h hmem

/-- What is written of matches is read as it was written exactly when no host has an end of a
line in it. -/
theorem linesOf_matches_iff :
    Text.linesOf (Text.unlines (shown.map Response.line ++ ["All done"])) =
      shown.map Response.line ++ ["All done"] ↔
    ∀ response ∈ shown, '\n' ∉ response.host.text.toList := by
  have hlast : '\n' ∉ "All done".toList := by decide
  have hline : ∀ response ∈ shown,
      ('\n' ∉ response.line.toList ↔ '\n' ∉ response.host.text.toList) := by
    intro response hmem
    rw [← List.count_eq_zero, count_line_of_mem h hmem, List.count_eq_zero]
  rw [Text.linesOf_unlines_iff, List.forall_mem_append, List.forall_mem_map,
    List.forall_mem_singleton, and_iff_left hlast]
  exact forall₂_congr hline

end Matches

/-- A report without statistics has a line for each match, in the order of their report, and a
last one, exactly when no host of a match has an end of a line in it; and with each such end it
has one line more. So it has no others when no host of the command line and of the
configuration has one: a hosts file names none that does. This holds for every command line,
every world and every way in which its scan can come to an end, as long as no value has an end
of a line in it. -/
theorem report_lines (h : Scans world arguments job launch)
    (hresult : launch.result? = some (.ok scan)) (hquiet : job.verbose = false)
    (hvalues : ∀ response ∈ scan.responses, ∀ value, response.status = .found value →
      '\n' ∉ value.toList) :
    ∃ shown stdout, shown = scan.responses.filter (·.status.isFound) ∧
      Ends world arguments (.success stdout) ∧
      outcome job world.colors (.ok scan) = .success stdout ∧
      scan.summary.found = shown.length ∧
      stdout = Text.unlines (shown.map Response.line ++ ["All done"]) ∧
      (∀ response ∈ shown, ∃ value, response.status = .found value ∧
        response.line = "Found on host " ++ response.host.text ++ " " ++ value) ∧
      (Text.linesOf stdout).length = scan.summary.found + 1 +
        (shown.map fun response => response.host.text.toList.count '\n').sum ∧
      (Text.linesOf stdout = shown.map Response.line ++ ["All done"] ↔
        ∀ response ∈ shown, '\n' ∉ response.host.text.toList) ∧
      ∀ invocation, Invocation.ofArguments arguments = .ok invocation →
        (∀ text ∈ invocation.hosts ++ (invocation.effective world.read).hosts,
          '\n' ∉ text.toList) →
        Text.linesOf stdout = shown.map Response.line ++ ["All done"] := by
  obtain ⟨rfl, -⟩ := Launch.eq_of_result? hresult
  have hreachable := h.launched.scan
  generalize hshown : launch.scan.responses.filter (·.status.isFound) = shown
  have hmem : ∀ response ∈ shown, response ∈ launch.scan.responses ∧
      ∃ value, response.status = .found value := by
    intro response hresponse
    rw [← hshown] at hresponse
    obtain ⟨hreported, hfound⟩ := List.mem_filter.mp hresponse
    exact ⟨hreported, Response.exists_value hfound⟩
  have hmatches : ∀ response ∈ shown, ∃ value, response.status = .found value ∧
      '\n' ∉ value.toList := by
    intro response hresponse
    obtain ⟨hreported, value, hvalue⟩ := hmem response hresponse
    exact ⟨value, hvalue, hvalues response hreported value hvalue⟩
  have houtcome : outcome job world.colors (.ok launch.scan) =
      .success (Text.unlines (shown.map Response.line ++ ["All done"])) := by
    rw [outcome, hquiet, report_eq_unlines, hshown]
  have hfound : launch.scan.summary.found = shown.length := by
    rw [hreachable.ordered.summary, Summary.tally_eq, ← hshown]
    exact List.countP_eq_length_filter
  refine ⟨shown, _, rfl, houtcome ▸ .scanned h hresult, houtcome, hfound, rfl, ?_, ?_,
    linesOf_matches_iff hmatches, ?_⟩
  · intro response hresponse
    obtain ⟨-, value, hvalue⟩ := hmem response hresponse
    exact ⟨value, hvalue, by rw [Response.line, hvalue]⟩
  · rw [hfound]
    exact length_linesOf_matches hmatches
  · intro invocation hinvocation hlisted
    refine (linesOf_matches_iff hmatches).mpr fun response hresponse => ?_
    exact h.newline_free hinvocation hlisted (hreachable.host_mem (hmem response hresponse).1)

/-- The case of two hosts, one of which is no URL. -/
theorem report_lines_server : ∃ job launch scan stdout,
    Scans serverWorld (["-w", "1", "http://[::1]/", "b"].map Text.encodeUtf8) job launch ∧
    launch.result? = some (.ok scan) ∧ job.verbose = false ∧
    outcome job true (.ok scan) = .success stdout ∧ scan.summary.found = 1 ∧
    Text.linesOf stdout = ["Found on host http://[::1]/ 1", "All done"] := by
  obtain ⟨job, launch, scan, hscans, hresult, hquiet, hscan, -⟩ := exists_scans_server
    ["-w", "1", "http://[::1]/", "b"] ["http://[::1]/", "b"] false (by decide +kernel)
  have hresponses : scan.responses = [⟨⟨"http://[::1]/"⟩, .found "1"⟩,
      ⟨⟨"b"⟩, .error "Cannot parse b as URL: relative URL without a base"⟩] := by
    rw [hscan]
    decide +kernel
  have hvalues : ∀ response ∈ scan.responses, ∀ value, response.status = .found value →
      '\n' ∉ value.toList := by
    rw [hresponses, List.forall_mem_cons, List.forall_mem_singleton]
    refine ⟨fun value hvalue => ?_, fun value hvalue => ?_⟩ <;> cases hvalue
    decide
  obtain ⟨shown, stdout, hshown, -, houtcome, hfound, -, -, -, hlines, -⟩ :=
    report_lines hscans hresult hquiet hvalues
  have hone : shown = [⟨⟨"http://[::1]/"⟩, .found "1"⟩] := by
    rw [hshown, hresponses]
    rfl
  rw [hone] at hfound hlines
  refine ⟨job, launch, scan, stdout, hscans, hresult, hquiet, houtcome, hfound, hlines.mpr ?_⟩
  rw [List.forall_mem_singleton]
  decide

/-- A host that is given with the end of a line after it is scanned, and its match is printed on
two lines: there is a line for no match. -/
theorem line_without_match : ∃ job launch scan,
    Scans serverWorld (["-w", "1", "http://[::1]/\n"].map Text.encodeUtf8) job launch ∧
    launch.result? = some (.ok scan) ∧ job.verbose = false ∧ scan.summary.found = 1 ∧
    (outcome job true (.ok scan)).stdout = "Found on host http://[::1]/\n 1\nAll done\n" ∧
    Text.linesOf (outcome job true (.ok scan)).stdout =
      ["Found on host http://[::1]/", " 1", "All done"] := by
  obtain ⟨job, launch, scan, hscans, hresult, hquiet, hscan, -⟩ := exists_scans_server
    ["-w", "1", "http://[::1]/\n"] ["http://[::1]/\n"] false (by decide +kernel)
  have hresponses : scan.responses = [⟨⟨"http://[::1]/\n"⟩, .found "1"⟩] := by
    rw [hscan]
    decide +kernel
  have hfound : scan.summary.found = 1 := by
    rw [(Launch.eq_of_result? hresult).1, hscans.launched.scan.ordered.summary,
      ← (Launch.eq_of_result? hresult).1, hresponses]
    rfl
  have hstdout : (outcome job true (.ok scan)).stdout =
      "Found on host http://[::1]/\n 1\nAll done\n" := by
    rw [outcome, hquiet, report_eq_unlines, hresponses]
    decide +kernel
  refine ⟨job, launch, scan, hscans, hresult, hquiet, hfound, hstdout, ?_⟩
  rw [hstdout]
  decide +kernel

end Program

end HeaderScan
