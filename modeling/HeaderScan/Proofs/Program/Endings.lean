import HeaderScan.Program
import HeaderScan.Proofs.Scan.Launch

/-!
# How the program can end

A run of the program takes one way through its scan. Here are all of them: whatever the
hosts answer, in whatever order workers, feed and collector move, and whenever the user
interrupts the scan.
-/

namespace HeaderScan.Program

variable {world : World} {arguments : List (List UInt8)} {invocation : Invocation} {job : Job}
  {launch : Launch ScanError Http.Client}

/-- The program has come to this job, and its launch can be in this state. -/
inductive Scans (world : World) (arguments : List (List UInt8)) (job : Job)
    (launch : Launch ScanError Http.Client) : Prop where
  | mk {invocation : Invocation} (hinvocation : Invocation.ofArguments arguments = .ok invocation)
      (hjob : invocation.job world.read = .ok job)
      (hlaunch : Launch.Reachable job.config (fun _ => job.builder.build) launch)

/-- The program can leave this behind. -/
inductive Ends (world : World) (arguments : List (List UInt8)) : Outcome → Prop where
  /-- The command line is not carried out. -/
  | refused {refusal : CommandLine.Refusal}
      (hrefusal : Invocation.ofArguments arguments = .error refusal) :
      Ends world arguments refusal.outcome
  /-- There is nothing to scan. -/
  | unfit {invocation : Invocation} {failure : Failure}
      (hinvocation : Invocation.ofArguments arguments = .ok invocation)
      (hjob : invocation.job world.read = .error failure) :
      Ends world arguments (.failure failure.report)
  /-- The launch of a scan has come to its result. -/
  | scanned {job : Job} {launch : Launch ScanError Http.Client} {result : Except ScanError Scan}
      (hscans : Scans world arguments job launch) (hresult : launch.result? = some result) :
      Ends world arguments (outcome job world.colors result)

/-- The launch of the program is one of its job. -/
theorem Scans.launched (h : Scans world arguments job launch) :
    launch.Launched job.config fun _ => job.builder.build := by
  obtain ⟨-, -, hlaunch⟩ := h
  exact hlaunch.launched

/-- The job of the program is the one that its command line asks for. -/
theorem Scans.job_eq (h : Scans world arguments job launch)
    (hinvocation : Invocation.ofArguments arguments = .ok invocation) :
    invocation.job world.read = .ok job := by
  obtain ⟨hother, hjob, -⟩ := h
  cases hother.symm.trans hinvocation
  exact hjob

/-- A run of the program ends in one of the ways in which it can. -/
theorem ends_run (world : World) (arguments : List (List UInt8)) :
    Ends world arguments (run world arguments) := by
  cases hinvocation : Invocation.ofArguments arguments with
  | error refusal =>
    rw [run, hinvocation]
    exact .refused hinvocation
  | ok invocation =>
    cases hjob : invocation.job world.read with
    | error failure =>
      simp only [run, hinvocation, hjob]
      exact .unfit hinvocation hjob
    | ok job =>
      simp only [run, hinvocation, hjob]
      obtain ⟨launch, hlaunch, hresult⟩ :=
        Launch.exists_scanNetwork world.network job.config job.builder world.interruptAt
      exact .scanned ⟨hinvocation, hjob, hlaunch⟩ hresult

end HeaderScan.Program
