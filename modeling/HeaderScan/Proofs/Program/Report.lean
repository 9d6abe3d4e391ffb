import HeaderScan.Proofs.Program.Checks
import HeaderScan.Proofs.Report.Figures

/-!
# Reports agree with themselves

The responses of a scan are sorted out three times: as matches when they are printed, by
kind when they are counted, and as failures when they are remembered. The three agree, so
what a report with statistics lists is as many lines as its figures say.
-/

namespace HeaderScan

namespace Host

/-- Hosts are ordered as their texts are. -/
instance : Std.TransOrd Host := inferInstanceAs (Std.TransCmp (compareOn Host.text))

/-- To come no later is transitive. -/
theorem notAfter_trans {a b c : Host} (hab : a.notAfter b = true) (hbc : b.notAfter c = true) :
    a.notAfter c = true :=
  Std.TransOrd.isLE_trans hab hbc

/-- Of two hosts one comes no later than the other. -/
theorem notAfter_total (a b : Host) : (a.notAfter b || b.notAfter a) = true := by
  have hswap : compare b a = (compare a b).swap := Std.OrientedOrd.eq_swap
  rw [notAfter, notAfter, hswap]
  cases compare a b <;> rfl

/-- Responses are sorted by host. -/
theorem pairwise_mergeSort (responses : List Response) :
    (responses.mergeSort fun a b => a.host.notAfter b.host).Pairwise
      fun a b => a.host.notAfter b.host = true := by
  apply List.pairwise_mergeSort
  · exact fun _ _ _ => notAfter_trans
  · exact fun a b => notAfter_total a.host b.host

end Host

namespace Statistics

/-- The failures among some responses are remembered in the order of their arrival. -/
theorem failures_foldl (statistics : Statistics) (responses : List Response) :
    (responses.foldl add statistics).failures =
      statistics.failures ++ responses.filter (·.status.isFailure) := by
  induction responses generalizing statistics with
  | nil => simp
  | cons response rest ih =>
    rw [List.foldl_cons, ih, add]
    cases hstatus : response.status.isFailure <;> simp [hstatus]

end Statistics

namespace Status

/-- A host could not be requested when no response came in time or the request failed. -/
theorem isFailure_iff {status : Status} :
    status.isFailure = true ↔ status = .timeout ∨ ∃ cause, status = .error cause := by
  cases status <;> simp [isFailure]

end Status

namespace Program

variable {world : World} {arguments : List (List UInt8)} {job : Job}
  {launch : Launch ScanError Http.Client} {scan : Scan}

/-- The failures among some responses in the order in which they are listed. -/
def listed (responses : List Response) : List Response :=
  (responses.filter (·.status.isFailure)).mergeSort fun a b => a.host.notAfter b.host

/-- Statistics show the summary that they are given and list all failures. -/
theorem statistics_eq (responses : List Response) (summary : Summary) :
    statistics responses summary = ⟨summary, listed responses⟩ := by
  rw [statistics, Statistics.finish, Statistics.failures_foldl]
  rfl

/-- The failures are listed by host. -/
theorem pairwise_listed (responses : List Response) :
    (listed responses).Pairwise fun a b => a.host.notAfter b.host = true :=
  Host.pairwise_mergeSort _

/-- Every failure is listed as often as it came. -/
theorem listed_perm (responses : List Response) :
    (listed responses).Perm (responses.filter (·.status.isFailure)) :=
  List.mergeSort_perm _ _

/-- The output of a scan agrees with itself, when it shows these matches and has these
entries for failing hosts. -/
structure Consistent (colors : Bool) (scan : Scan) (shown entries : List Response)
    (stdout : String) : Prop where
  /-- The output has a line for each match, a line for each figure of the summary that shows its
  title and all of its digits, a section with a line for each entry unless there is none, and its
  last line. -/
  text : ∃ figures,
    List.Forall₂ (fun entry line => Statistics.Shows entry.1 entry.2 line)
      (Statistics.entries scan.summary) figures ∧
    stdout = String.join (shown.map fun response => response.line ++ "\n") ++
      ("\n" ++ (Text.unlines ("📝 Summary" :: "".pushn '-' (Statistics.width + 1) :: figures) ++
        (if entries = [] then ""
        else "\nFailed hosts\n" ++
          String.join (entries.map fun response => response.styledLine colors ++ "\n"))) ++ "\n") ++
      "All done\n"
  /-- The matches are the responses that carried the header, in the order of their report. -/
  shown_eq : shown = scan.responses.filter (·.status.isFound)
  /-- There are as many as the figure says. -/
  found : scan.summary.found = shown.length
  /-- Every failing response has its entry, as often as it came. -/
  entries_perm : entries.Perm (scan.responses.filter (·.status.isFailure))
  /-- The failing responses are those that came to a timeout or an error. -/
  mem_entries : ∀ response, response ∈ entries ↔ response ∈ scan.responses ∧
    (response.status = .timeout ∨ ∃ cause, response.status = .error cause)
  /-- The entries are in the order of the hosts. -/
  sorted : entries.Pairwise fun a b => a.host.notAfter b.host = true
  /-- There are as many as the figure says. -/
  failed : scan.summary.failed = entries.length
  /-- The figures add up. -/
  total : scan.summary.total = scan.summary.found + scan.summary.missing + scan.summary.failed +
    scan.summary.cancelled
  /-- They count the responses that were reported. -/
  reported : scan.summary.total = scan.reported.length

/-- The list of failures, which is nothing when there are none. -/
theorem failureList_eq (colors : Bool) (entries : List Response) :
    Statistics.failureList colors entries =
      if entries = [] then ""
      else "\nFailed hosts\n" ++
        String.join (entries.map fun response => response.styledLine colors ++ "\n") := by
  cases entries with
  | nil => rfl
  | cons first rest => rfl

/-- What a scan has counted and reported makes a consistent report. -/
theorem consistent_report (colors : Bool) (hsummary : scan.summary = .tally scan.responses) :
    Consistent colors scan (scan.responses.filter (·.status.isFound)) (listed scan.responses)
      (report true colors scan.responses scan.summary) where
  text := by
    refine ⟨Statistics.figureLines scan.summary, Statistics.shows_figureLines _, ?_⟩
    rw [report, statistics_eq, Statistics.text_eq, failureList_eq, if_pos rfl]
    rfl
  shown_eq := rfl
  found := by rw [hsummary, Summary.tally_eq, List.countP_eq_length_filter]
  entries_perm := listed_perm _
  mem_entries response := by
    rw [(listed_perm _).mem_iff, List.mem_filter, Status.isFailure_iff]
  sorted := pairwise_listed _
  failed := by
    rw [hsummary, (listed_perm _).length_eq, Summary.tally_eq]
    exact List.countP_eq_length_filter
  total := by rw [hsummary, Summary.total_tally]
  reported := by rw [hsummary, Summary.tally_eq, Scan.responses, List.length_map]

/-- The output with statistics agrees with itself. For every command line, every world and every
way in which its scan can come to an end: as many matches are shown as the figure of the found
hosts says that is printed, as many hosts are listed below their title as that of the failed ones
says, they are the failing ones in the order of their hosts, and the figures add up to the number
of responses. -/
theorem report_consistent (h : Scans world arguments job launch)
    (hresult : launch.result? = some (.ok scan)) (hverbose : job.verbose = true) :
    Ends world arguments (outcome job world.colors (.ok scan)) ∧
      ∃ shown entries,
        Consistent world.colors scan shown entries (outcome job world.colors (.ok scan)).stdout := by
  obtain ⟨rfl, -⟩ := Launch.eq_of_result? hresult
  have hreport := consistent_report world.colors h.launched.scan.ordered.summary
  rw [← hverbose] at hreport
  exact ⟨.scanned h hresult, _, _, hreport⟩

/-- A machine without files, whose network has one server for all names. -/
def serverWorld : World where
  read _ := .error .notFound
  network := ⟨fun _ => .ok ⟨.ok, [("X-Forwarded-For", ⟨[0x31]⟩)]⟩, fun _ => 5⟩
  interruptAt := none
  colors := true

/-- A run of the program whose clients can be made is a scan over the network of its world. -/
theorem exists_scans {invocation : Invocation} {client : Http.Client}
    (hinvocation : Invocation.ofArguments arguments = .ok invocation)
    (hjob : invocation.job world.read = .ok job) (hclient : job.builder.build = .ok client) :
    ∃ launch scan, Scans world arguments job launch ∧ launch.result? = some (.ok scan) ∧
      scan = (Timeline.run job.config (client.plan world.network) world.interruptAt).scan ∧
      run world arguments = outcome job world.colors (.ok scan) := by
  obtain ⟨launch, hlaunch, hresult⟩ :=
    Launch.exists_scanNetwork world.network job.config job.builder world.interruptAt
  have hok : ∀ k, k < job.config.workers →
      (Except.ok client : Except ScanError Http.Client).isOk = true := fun _ _ => rfl
  obtain ⟨clients, hmake, hclients⟩ := Setup.make_of_isOk hok
  have hscan : scanNetwork world.network job.config job.builder world.interruptAt =
      .ok (Timeline.run job.config (client.plan world.network) world.interruptAt).scan := by
    have hworkers := job.config.workers_pos
    cases clients with
    | nil =>
      have hlength := congrArg List.length hclients
      rw [List.length_map, List.length_range, List.map_nil, List.length_nil] at hlength
      omega
    | cons first others =>
      have hmem : (Except.ok first : Except ScanError Http.Client) ∈
          (List.range job.config.workers).map fun _ => Except.ok client := by
        rw [hclients]
        exact List.mem_cons_self
      obtain ⟨_, -, hfirst⟩ := List.mem_map.mp hmem
      cases hfirst
      rw [scanNetwork, hclient, hmake]
  refine ⟨launch, _, ⟨hinvocation, hjob, hlaunch⟩, hresult.trans (congrArg some hscan), rfl, ?_⟩
  simp only [run, hinvocation, hjob, hscan]

/-- The client for which nothing is configured. -/
def standardClient : Http.Client where
  header := ⟨Http.defaultHeader⟩
  requestFields := ⟨[(Http.userAgentName, ⟨Text.encodeUtf8 Http.defaultUserAgent⟩)]⟩
  timeout := none

/-- A run of the program with one worker and the standard client, and with one server for all
names. -/
theorem exists_scans_server (words hosts : List String) (verbose : Bool)
    (h : ((Invocation.ofArguments (words.map Text.encodeUtf8)).toOption.bind
      fun invocation => (invocation.job serverWorld.read).toOption.bind fun job =>
        job.builder.build.toOption.map fun client => (job.config.hosts, job.config.workers,
          job.verbose, client.header, client.requestFields, client.timeout.isNone)) =
      some (hosts.map Host.mk, 1, verbose, standardClient.header, standardClient.requestFields,
        true)) :
    ∃ job launch scan, Scans serverWorld (words.map Text.encodeUtf8) job launch ∧
      launch.result? = some (.ok scan) ∧ job.verbose = verbose ∧
      scan = (Timeline.run ⟨hosts.map Host.mk, 1, Nat.one_pos⟩
        (standardClient.plan serverWorld.network) none).scan ∧
      run serverWorld (words.map Text.encodeUtf8) = outcome job true (.ok scan) := by
  obtain ⟨invocation, hinvocation, h⟩ := exists_of_toOption_bind h
  obtain ⟨job, hjob, h⟩ := exists_of_toOption_bind h
  obtain ⟨client, hbuild, h⟩ := Option.map_eq_some_iff.mp h
  simp only [Prod.mk.injEq] at h
  obtain ⟨hhosts, hworkers, hverbose, hheader, hfields, htimeout⟩ := h
  have hclient : job.builder.build = .ok standardClient := by
    cases hmade : job.builder.build with
    | error error =>
      rw [hmade] at hbuild
      cases hbuild
    | ok made =>
      rw [hmade] at hbuild
      cases hbuild
      obtain ⟨header, fields, timeout⟩ := client
      cases hheader
      cases hfields
      cases Option.isNone_iff_eq_none.mp htimeout
      rfl
  have hconfig : job.config = ⟨hosts.map Host.mk, 1, Nat.one_pos⟩ := by
    obtain ⟨⟨configHosts, workers, hpos⟩, builder, _⟩ := job
    cases hhosts
    cases hworkers
    rfl
  obtain ⟨launch, scan, hscans, hresult, hscan, hrun⟩ := exists_scans hinvocation hjob hclient
  rw [hconfig] at hscan
  exact ⟨job, launch, scan, hscans, hresult, hverbose, hscan, hrun⟩

/-- The case of a match and of two hosts that are no targets, which are listed in the other
order. -/
theorem report_consistent_server :
    ∃ job launch scan shown entries,
      Scans serverWorld (["--verbose", "-w", "1", "b", "http://[::1]/", "a"].map Text.encodeUtf8)
        job launch ∧
      launch.result? = some (.ok scan) ∧ job.verbose = true ∧
      run serverWorld (["--verbose", "-w", "1", "b", "http://[::1]/", "a"].map Text.encodeUtf8) =
        outcome job true (.ok scan) ∧
      Consistent true scan shown entries (outcome job true (.ok scan)).stdout ∧
      (outcome job true (.ok scan)).stdout = "Found on host http://[::1]/ 1\n\n" ++
        "📝 Summary\n---------------------\n" ++
        "🔍 Total............3\n🎯 Found............1\n👻 Missing..........0\n" ++
        "🚫 Failed...........2\n⛔ Cancelled........0\n\nFailed hosts\n" ++
        "\x1b[38;5;11ma Runtime error (Cannot parse a as URL: relative URL without a base)" ++
        "\x1b[0m\n" ++
        "\x1b[38;5;11mb Runtime error (Cannot parse b as URL: relative URL without a base)" ++
        "\x1b[0m\n\nAll done\n" := by
  obtain ⟨job, launch, scan, hscans, hresult, hverbose, hscan, hrun⟩ := exists_scans_server
    ["--verbose", "-w", "1", "b", "http://[::1]/", "a"] ["b", "http://[::1]/", "a"] true
    (by decide +kernel)
  obtain ⟨-, shown, entries, hconsistent⟩ := report_consistent hscans hresult hverbose
  refine ⟨job, launch, scan, shown, entries, hscans, hresult, hverbose, hrun, hconsistent, ?_⟩
  have hresponses : scan.responses =
      [⟨⟨"b"⟩, .error "Cannot parse b as URL: relative URL without a base"⟩,
        ⟨⟨"http://[::1]/"⟩, .found "1"⟩,
        ⟨⟨"a"⟩, .error "Cannot parse a as URL: relative URL without a base"⟩] := by
    rw [hscan]
    decide +kernel
  have hlisted : listed scan.responses =
      [⟨⟨"a"⟩, .error "Cannot parse a as URL: relative URL without a base"⟩,
        ⟨⟨"b"⟩, .error "Cannot parse b as URL: relative URL without a base"⟩] := by
    have hlater : Host.notAfter ⟨"b"⟩ ⟨"a"⟩ = false := by decide
    rw [hresponses]
    simp [listed, Status.isFailure, List.mergeSort, List.MergeSort.Internal.splitInTwo, hlater]
  have hsummary : scan.summary = ⟨3, 1, 0, 2, 0⟩ := by
    rw [hscan]
    decide +kernel
  rw [outcome, hverbose, report, statistics_eq, hlisted, hresponses, hsummary]
  decide +kernel

end Program

end HeaderScan
