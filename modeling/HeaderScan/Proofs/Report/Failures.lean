import HeaderScan.Proofs.Program.Report
import Mathlib.Data.List.DropRight
import Mathlib.Data.String.Basic

/-!
# The failures of any course of statistics

Statistics are added to and finished any number of times, in any order. What they remember
is the stable sort by host of the failures that were added before they were last finished,
and after it the failures that came later. A stable sort is determined by what it holds for
each host, so the order in which different hosts failed does not show.
-/

namespace HeaderScan

namespace Host

/-- A host comes no later than itself. -/
@[simp] theorem notAfter_self (host : Host) : host.notAfter host = true := by
  have h := notAfter_total host host
  rwa [Bool.or_self] at h

/-- Two hosts of which neither comes later are the same. -/
theorem eq_of_notAfter {a b : Host} (hab : a.notAfter b = true) (hba : b.notAfter a = true) :
    a = b := by
  have heq : compare a.text b.text = .eq := Std.OrientedCmp.isLE_antisymm hab hba
  cases a
  cases b
  rw [Host.mk.injEq]
  exact Std.LawfulEqOrd.eq_of_compare heq

end Host

/-- The responses of one host. -/
def ofHost (host : Host) (responses : List Response) : List Response :=
  responses.filter (·.host = host)

/-- Some responses are sorted by host, and those of one host are in the order in which they
came. -/
structure StablySorted (responses sorted : List Response) : Prop where
  /-- No host comes before one that it comes after. -/
  pairwise : sorted.Pairwise fun a b => a.host.notAfter b.host = true
  /-- Each host has its responses, in their order. -/
  ofHost_eq : ∀ host, ofHost host sorted = ofHost host responses

namespace StablySorted

variable {responses other first second : List Response}

/-- A response is there when it is there among those of its host. -/
theorem mem_of_ofHost_eq {response : Response}
    (h : ∀ host, ofHost host first = ofHost host second) (hmem : response ∈ first) :
    response ∈ second := by
  have hhost : response ∈ ofHost response.host first := by simpa [ofHost] using hmem
  rw [h] at hhost
  exact List.mem_of_mem_filter hhost

/-- The responses of each host in their order are all there is to a stable sort. -/
theorem eq (hfirst : StablySorted responses first) (hsecond : StablySorted other second)
    (h : ∀ host, ofHost host responses = ofHost host other) : first = second := by
  have hsame (host : Host) : ofHost host first = ofHost host second := by
    rw [hfirst.ofHost_eq, hsecond.ofHost_eq, h]
  have hleft := hfirst.pairwise
  have hright := hsecond.pairwise
  clear hfirst hsecond h
  induction first generalizing second with
  | nil =>
    cases second with
    | nil => rfl
    | cons b later =>
      have hmemb : b ∈ [] := mem_of_ofHost_eq (fun host => (hsame host).symm) List.mem_cons_self
      cases hmemb
  | cons a earlier ih =>
    cases second with
    | nil =>
      have hmema : a ∈ [] := mem_of_ofHost_eq hsame List.mem_cons_self
      cases hmema
    | cons b later =>
      -- Both first responses are about the least host, so they are the first of this host.
      have hmemb : b ∈ a :: earlier :=
        mem_of_ofHost_eq (fun host => (hsame host).symm) List.mem_cons_self
      have hmema : a ∈ b :: later := mem_of_ofHost_eq hsame List.mem_cons_self
      have hab : a.host.notAfter b.host = true := by
        rcases List.mem_cons.mp hmemb with rfl | hmem
        · exact Host.notAfter_self _
        · exact List.rel_of_pairwise_cons hleft hmem
      have hba : b.host.notAfter a.host = true := by
        rcases List.mem_cons.mp hmema with rfl | hmem
        · exact Host.notAfter_self _
        · exact List.rel_of_pairwise_cons hright hmem
      have hhost : a.host = b.host := Host.eq_of_notAfter hab hba
      have hheads := hsame a.host
      rw [ofHost, ofHost, List.filter_cons_of_pos (by simp),
        List.filter_cons_of_pos (by simp [hhost])] at hheads
      obtain ⟨rfl, -⟩ := List.cons.inj hheads
      rw [ih (fun host => ?_) hleft.of_cons hright.of_cons]
      have hall := hsame host
      by_cases hkept : a.host = host
      · simpa [ofHost, hkept] using hall
      · simpa [ofHost, hkept] using hall

/-- Sorting by host is stable. -/
theorem mergeSort (responses : List Response) :
    StablySorted responses (responses.mergeSort fun a b => a.host.notAfter b.host) where
  pairwise := Host.pairwise_mergeSort responses
  ofHost_eq host := by
    -- What is sorted already stays in its order, such as the responses of one host.
    have hpairwise : (ofHost host responses).Pairwise
        fun a b => a.host.notAfter b.host = true := by
      refine List.pairwise_of_forall_mem_list fun a ha b hb => ?_
      have hhosts : a.host = host ∧ b.host = host := by
        simp only [ofHost, List.mem_filter, decide_eq_true_eq] at ha hb
        exact ⟨ha.2, hb.2⟩
      rw [hhosts.1, hhosts.2]
      exact Host.notAfter_self host
    have hsublist : (ofHost host responses).Sublist
        (responses.mergeSort fun a b => a.host.notAfter b.host) := by
      refine List.sublist_mergeSort ?_ ?_ hpairwise List.filter_sublist
      · exact fun _ _ _ => Host.notAfter_trans
      · exact fun a b => Host.notAfter_total a.host b.host
    have hkept : (ofHost host responses).Sublist
        (ofHost host (responses.mergeSort fun a b => a.host.notAfter b.host)) := by
      simpa only [ofHost, List.filter_filter, Bool.and_self] using
        hsublist.filter fun response => decide (response.host = host)
    have hperm := List.mergeSort_perm responses fun a b => a.host.notAfter b.host
    have hlength := (hperm.filter fun response => decide (response.host = host)).length_eq
    exact (hkept.eq_of_length hlength.symm).symm

/-- Sorting a part first changes nothing. -/
theorem append {sorted : List Response} (later : List Response)
    (h : StablySorted responses first) (hsorted : StablySorted (first ++ later) sorted) :
    StablySorted (responses ++ later) sorted where
  pairwise := hsorted.pairwise
  ofHost_eq host := by
    have hfirst := h.ofHost_eq host
    unfold ofHost at hfirst
    rw [hsorted.ofHost_eq, ofHost, ofHost, List.filter_append, List.filter_append, hfirst]

end StablySorted

namespace Statistics

/-- What can be done to statistics. -/
inductive Action where
  /-- A response is added. -/
  | add (response : Response)
  /-- They are finished with this summary. -/
  | finish (summary : Summary)

namespace Action

/-- The action does not finish the statistics. -/
def isAdd : Action → Bool
  | add _ => true
  | finish _ => false

/-- The response that is added. -/
def response? : Action → Option Response
  | add response => some response
  | finish _ => none

/-- The summary with which the statistics are finished. -/
def summary? : Action → Option Summary
  | add _ => none
  | finish summary => some summary

end Action

/-- The statistics after an action. -/
def act (statistics : Statistics) : Action → Statistics
  | .add response => statistics.add response
  | .finish summary => statistics.finish summary

/-- The statistics after some actions, one after the other. -/
def ofActions (actions : List Action) : Statistics := actions.foldl act new

/-- The responses that are added, in their order. -/
def added (actions : List Action) : List Response := actions.filterMap Action.response?

/-- The failing responses that are added, in their order. -/
def failing (actions : List Action) : List Response :=
  (added actions).filter (·.status.isFailure)

/-- The actions up to the last one that finishes the statistics. -/
def untilFinish (actions : List Action) : List Action := actions.rdropWhile Action.isAdd

/-- The actions after the last one that finishes the statistics. -/
def sinceFinish (actions : List Action) : List Action := actions.rtakeWhile Action.isAdd

/-- The summary with which the statistics are finished last. -/
def lastSummary? (actions : List Action) : Option Summary :=
  (actions.filterMap Action.summary?).getLast?

variable {actions other : List Action}

@[simp] theorem ofActions_concat (actions : List Action) (action : Action) :
    ofActions (actions ++ [action]) = (ofActions actions).act action := by
  simp [ofActions]

@[simp] theorem failing_append (actions later : List Action) :
    failing (actions ++ later) = failing actions ++ failing later := by
  simp [failing, added]

@[simp] theorem failing_finish (summary : Summary) : failing [.finish summary] = [] := rfl

/-- A response that is added is remembered if it is a failure. -/
theorem failures_add (statistics : Statistics) (response : Response) :
    (statistics.add response).failures = statistics.failures ++ failing [.add response] := by
  cases hstatus : response.status.isFailure <;>
    simp [add, failing, added, Action.response?, hstatus]

/-- The failing responses are added before the last finish or after it. -/
theorem failing_eq (actions : List Action) :
    failing actions = failing (untilFinish actions) ++ failing (sinceFinish actions) := by
  rw [← failing_append, untilFinish, sinceFinish, List.rdropWhile_append_rtakeWhile]

/-- To finish statistics of which a part is sorted sorts all of them. -/
theorem stablySorted_finish {sorted : List Response} (summary : Summary)
    (hsorted : StablySorted (failing (untilFinish actions)) sorted)
    (hfailures : (ofActions actions).failures = sorted ++ failing (sinceFinish actions)) :
    StablySorted (failing actions) ((ofActions actions).finish summary).failures := by
  rw [failing_eq]
  refine hsorted.append _ ?_
  rw [finish, hfailures]
  exact .mergeSort _

/-- What is remembered is sorted as far as it was there at the last finish, however often the
statistics were finished before; the later failures follow as they came. -/
theorem exists_failures_eq (actions : List Action) :
    ∃ sorted, StablySorted (failing (untilFinish actions)) sorted ∧
      (ofActions actions).failures = sorted ++ failing (sinceFinish actions) := by
  induction actions using List.reverseRecOn with
  | nil => exact ⟨[], ⟨.nil, fun _ => rfl⟩, rfl⟩
  | append_singleton actions action ih =>
    obtain ⟨sorted, hsorted, hfailures⟩ := ih
    rw [ofActions_concat]
    cases action with
    | add response =>
      have huntil : untilFinish (actions ++ [.add response]) = untilFinish actions :=
        List.rdropWhile_concat_pos _ _ _ rfl
      have hsince : sinceFinish (actions ++ [.add response]) =
          sinceFinish actions ++ [.add response] := List.rtakeWhile_concat_pos _ _ _ rfl
      refine ⟨sorted, huntil ▸ hsorted, ?_⟩
      rw [act, failures_add, hfailures, hsince, failing_append, List.append_assoc]
    | finish summary =>
      have huntil : untilFinish (actions ++ [.finish summary]) = actions ++ [.finish summary] :=
        List.rdropWhile_concat_neg _ _ _ Bool.false_ne_true
      have hsince : sinceFinish (actions ++ [.finish summary]) = [] :=
        List.rtakeWhile_concat_neg _ _ _ Bool.false_ne_true
      refine ⟨((ofActions actions).finish summary).failures, ?_, ?_⟩
      · rw [huntil, failing_append, failing_finish, List.append_nil]
        exact stablySorted_finish summary hsorted hfailures
      · rw [hsince]
        exact (List.append_nil _).symm

/-- The summary is that of the last finish. -/
theorem summary_ofActions (actions : List Action) :
    (ofActions actions).summary = (lastSummary? actions).getD .empty := by
  induction actions using List.reverseRecOn with
  | nil => rfl
  | append_singleton actions action ih =>
    rw [ofActions_concat]
    cases action with
    | add response =>
      have hlast : lastSummary? (actions ++ [.add response]) = lastSummary? actions := by
        simp [lastSummary?, Action.summary?]
      have hkept : ((ofActions actions).add response).summary = (ofActions actions).summary := by
        unfold add
        split <;> rfl
      rw [act, hkept, ih, hlast]
    | finish summary => simp [act, finish, lastSummary?, Action.summary?]

/-- Once they are finished, statistics depend only on the failing responses of each host and
on the last summary. -/
theorem ofActions_finish_congr (summary : Summary)
    (h : ∀ host, ofHost host (failing actions) = ofHost host (failing other)) :
    ofActions (actions ++ [.finish summary]) = ofActions (other ++ [.finish summary]) := by
  have hsorted (actions : List Action) :
      StablySorted (failing actions) ((ofActions actions).finish summary).failures := by
    obtain ⟨sorted, hsorted, hfailures⟩ := exists_failures_eq actions
    exact stablySorted_finish summary hsorted hfailures
  have hfailures := (hsorted actions).eq (hsorted other) h
  rw [ofActions_concat, ofActions_concat]
  exact congrArg (Statistics.mk summary) hfailures

/-- When the outcome is determined by the host, the same responses have the same failures for
each host in any order. -/
theorem ofHost_failing_eq {answer : Host → Status} (hperm : (added actions).Perm (added other))
    (hanswer : ∀ response ∈ added actions, response.status = answer response.host) (host : Host) :
    ofHost host (failing actions) = ofHost host (failing other) := by
  have halike {responses : List Response}
      (h : ∀ response ∈ responses, response.status = answer response.host) :
      ∀ response ∈ ofHost host (responses.filter (·.status.isFailure)),
        response = ⟨host, answer host⟩ := by
    intro response hmem
    obtain ⟨hmem, hhost⟩ := List.mem_filter.mp hmem
    have hstatus := h response (List.mem_of_mem_filter hmem)
    obtain rfl : response.host = host := by simpa using hhost
    rw [← hstatus]
  have hother : ∀ response ∈ added other, response.status = answer response.host :=
    fun response hmem => hanswer response (hperm.mem_iff.mpr hmem)
  have hlength := ((hperm.filter (·.status.isFailure)).filter (·.host = host)).length_eq
  rw [failing, failing, List.eq_replicate_of_mem (halike hanswer),
    List.eq_replicate_of_mem (halike hother)]
  exact congrArg (List.replicate · _) hlength

/-- What statistics remember and show. For every sequence of actions, what is remembered is
the stable sort by host of the failing responses that were added up to the last finish,
followed by those added after it as they came, and the summary is that of the last finish. So
when two sequences add, for each host, the same failing responses in the same order, they are
shown alike once they are finished with the same summary; this is the case whenever they add
the same responses and the status is a function of the host. -/
theorem failures_determined (actions : List Action) :
    (∃ sorted, StablySorted (failing (untilFinish actions)) sorted ∧
      (ofActions actions).failures = sorted ++ failing (sinceFinish actions)) ∧
    (ofActions actions).summary = (lastSummary? actions).getD .empty ∧
    (∀ other summary colors,
      (∀ host, ofHost host (failing actions) = ofHost host (failing other)) →
      (ofActions (actions ++ [.finish summary])).text colors =
        (ofActions (other ++ [.finish summary])).text colors) ∧
    ∀ other summary colors (answer : Host → Status), (added actions).Perm (added other) →
      (∀ response ∈ added actions, response.status = answer response.host) →
      (ofActions (actions ++ [.finish summary])).text colors =
        (ofActions (other ++ [.finish summary])).text colors := by
  refine ⟨exists_failures_eq actions, summary_ofActions actions, ?_, ?_⟩
  · intro other summary colors h
    rw [ofActions_finish_congr summary h]
  · intro other summary colors answer hperm hanswer
    rw [ofActions_finish_congr summary (ofHost_failing_eq hperm hanswer)]

/-- Two failures of one host, one of them after a first finish, and a match. -/
def twiceFinished : List Action :=
  [.add ⟨⟨"b"⟩, .timeout⟩, .finish .empty, .add ⟨⟨"c"⟩, .found "1"⟩, .add ⟨⟨"b"⟩, .error "refused"⟩,
    .add ⟨⟨"a"⟩, .timeout⟩]

/-- The same responses in another order, with the failures of each host as they were. -/
def neverFinished : List Action :=
  [.add ⟨⟨"a"⟩, .timeout⟩, .add ⟨⟨"b"⟩, .timeout⟩, .add ⟨⟨"b"⟩, .error "refused"⟩,
    .add ⟨⟨"c"⟩, .found "1"⟩]

/-- The cases of a host with two different failures, and of hosts with one outcome each. -/
theorem failures_determined_twice :
    (ofActions (twiceFinished ++ [.finish ⟨4, 1, 0, 3, 0⟩])).text true =
      (ofActions (neverFinished ++ [.finish ⟨4, 1, 0, 3, 0⟩])).text true ∧
    (ofActions ([.add ⟨⟨"b"⟩, .timeout⟩, .add ⟨⟨"a"⟩, .timeout⟩] ++ [.finish .empty])).text false =
      (ofActions ([.add ⟨⟨"a"⟩, .timeout⟩, .add ⟨⟨"b"⟩, .timeout⟩] ++ [.finish .empty])).text
        false := by
  constructor
  · obtain ⟨-, -, hordered, -⟩ := failures_determined twiceFinished
    refine hordered neverFinished _ true fun host => ?_
    have hfirst : failing twiceFinished =
        [⟨⟨"b"⟩, .timeout⟩, ⟨⟨"b"⟩, .error "refused"⟩, ⟨⟨"a"⟩, .timeout⟩] := by decide
    have hsecond : failing neverFinished =
        [⟨⟨"a"⟩, .timeout⟩, ⟨⟨"b"⟩, .timeout⟩, ⟨⟨"b"⟩, .error "refused"⟩] := by decide
    rw [hfirst, hsecond]
    by_cases hhost : Host.mk "a" = host
    · subst hhost
      decide
    · simp [ofHost, List.filter_cons, hhost]
  · obtain ⟨-, -, -, hanswered⟩ :=
      failures_determined [.add ⟨⟨"b"⟩, .timeout⟩, .add ⟨⟨"a"⟩, .timeout⟩]
    exact hanswered _ .empty false (fun _ => .timeout) (by decide) (by decide)

end Statistics

end HeaderScan
