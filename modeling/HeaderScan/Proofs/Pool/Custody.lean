import HeaderScan.Proofs.Pool.History

/-!
# In whose hands a host is

Every host that a worker has taken from the queue is accounted for by the history of
that worker: its response was sent, or it is in the hands of the worker, or it was lost
with it. A host is lost only when the work ends, by a panic with the host whose probe
was called last.
-/

namespace HeaderScan

namespace History

/-- The account of a history, when the token is cancelled or not and the receiver of the
responses is there or not. -/
structure Sound (isCancelled hasReceiver : Bool) (history : History) : Prop where
  /-- A host that was taken was sent on with its response, is in hand, or was lost. -/
  handedOut : history.handedOut =
    history.sent.map (·.host) ++ (history.phase?.bind Phase.host?).toList ++ history.lost
  /-- Nothing is lost before the work ends. -/
  lost : history.phase?.bind Phase.exit? = none → history.lost = []
  /-- Nothing is lost by a worker that stops by itself while somebody receives. -/
  returned : hasReceiver = true → history.phase?.bind Phase.exit? = some .returned →
    history.lost = []
  /-- The probe in flight is the one that was called last. -/
  probing : ∀ host, history.phase? = some (.probing host) →
    ∃ earlier, history.called = earlier ++ [host]
  /-- A panic loses the host whose probe was called last, and nothing else. -/
  panicked : history.phase?.bind Phase.exit? = some .panicked →
    ∃ earlier host, history.called = earlier ++ [host] ∧ history.lost = [host]
  /-- A response that was made was sent or is about to be, unless it was lost. -/
  made : history.lost = [] ∨ history.phase?.bind Phase.exit? = some .panicked →
    history.made = history.sent ++ (history.phase?.bind Phase.response?).toList
  /-- A response is about a host that was taken. -/
  made_handedOut : ∀ response ∈ history.made, response.host ∈ history.handedOut
  /-- Without a cancellation a response comes from an answer. -/
  answered : isCancelled = false → history.made = history.answered
  /-- Without a cancellation every host is probed, unless it was lost before. -/
  called : isCancelled = false →
    history.lost = [] ∨ history.phase?.bind Phase.exit? = some .panicked →
    history.handedOut = history.called ++ (history.phase?.bind Phase.held?).toList

variable {isCancelled hasReceiver : Bool} {history after : History}

/-- The history before the worker is started has nothing to account for. -/
theorem unstarted_sound : unstarted.Sound isCancelled hasReceiver := by
  constructor <;> simp [unstarted]

namespace Sound

/-- While a worker works it has lost nothing. -/
theorem lost_of_phase (h : history.Sound isCancelled hasReceiver) {phase : Phase}
    (hphase : history.phase? = some phase) (hexit : phase.exit? = none) : history.lost = [] :=
  h.lost (by simpa [hphase] using hexit)

/-- While a worker works, all its responses were sent but the one in its hands. -/
theorem made_of_phase (h : history.Sound isCancelled hasReceiver) {phase : Phase}
    (hphase : history.phase? = some phase) (hexit : phase.exit? = none) :
    history.made = history.sent ++ phase.response?.toList := by
  simpa [hphase] using h.made (.inl (h.lost_of_phase hphase hexit))

/-- While a worker works, it has called the probes of all its hosts but the one it holds. -/
theorem called_of_phase (h : history.Sound isCancelled hasReceiver)
    (htoken : isCancelled = false) {phase : Phase} (hphase : history.phase? = some phase)
    (hexit : phase.exit? = none) : history.handedOut = history.called ++ phase.held?.toList := by
  simpa [hphase] using h.called htoken (.inl (h.lost_of_phase hphase hexit))

/-- A worker that is dropped without a loss had no host. -/
theorem host?_of_abort {lost : List Host} {phase : Phase}
    (h : lost ++ phase.host?.toList = [] ∨
      (some (Phase.leaving .aborted .consumer)).bind Phase.exit? = some .panicked) :
    phase.host? = none := by
  rcases h with h | h
  · simpa using (List.append_eq_nil_iff.mp h).2
  · cases h

/-- The host in the hands of a worker is one that it has taken. -/
theorem mem_handedOut (h : history.Sound isCancelled hasReceiver) {phase : Phase} {host : Host}
    (hphase : history.phase? = some phase) (hhost : phase.host? = some host) :
    host ∈ history.handedOut := by
  rw [h.handedOut]
  simp [hphase, hhost]

/-- A host that is taken comes into the hands of the worker, and leaves them sent or lost. -/
theorem handedOut_grown (h : history.Sound isCancelled hasReceiver)
    (hgrown : history.Grown isCancelled hasReceiver after) :
    after.handedOut =
      after.sent.map (·.host) ++ (after.phase?.bind Phase.host?).toList ++ after.lost := by
  have hold := h.handedOut
  cases hgrown with
  | start hphase | listen hphase | call hphase | answer _ hphase =>
    simpa [hphase, Phase.host?] using hold
  | stop hphase hfree =>
    rcases hfree with rfl | rfl <;> simpa [hphase, Phase.host?] using hold
  | giveUp hphase hhost =>
    rcases hhost with rfl | rfl <;> simpa [hphase, Phase.host?] using hold
  | letGo hphase hexit hnext =>
    simpa [hphase, Phase.host?_of_exit? hexit, Phase.host?_of_exit? hnext] using hold
  | take host hphase | panic hphase | send hphase | discard hphase =>
    -- What is taken, sent or lost stands before the hosts lost earlier: there are none.
    have hlost := h.lost_of_phase hphase rfl
    simpa [hphase, hlost, Phase.host?] using hold
  | abort hphase hworking =>
    have hlost := h.lost_of_phase hphase (Phase.exit?_of_isWorking hworking)
    simpa [hphase, hlost, Phase.host?] using hold

/-- Only the end of the work loses a host. -/
theorem lost_grown (h : history.Sound isCancelled hasReceiver)
    (hgrown : history.Grown isCancelled hasReceiver after)
    (hexit : after.phase?.bind Phase.exit? = none) : after.lost = [] := by
  cases hgrown with
  | start hphase => exact h.lost (by simp [hphase])
  | listen hphase | take _ hphase | call hphase | answer _ hphase | send hphase =>
    exact h.lost_of_phase hphase rfl
  | giveUp hphase hhost =>
    rcases hhost with rfl | rfl <;> exact h.lost_of_phase hphase rfl
  | stop | panic | discard | abort => simp [Phase.exit?] at hexit
  | letGo _ _ hnext => simp [hnext] at hexit

/-- A worker stops by itself between two hosts, or because nobody receives. -/
theorem returned_grown (h : history.Sound isCancelled hasReceiver)
    (hgrown : history.Grown isCancelled hasReceiver after) (hreceiver : hasReceiver = true)
    (hexit : after.phase?.bind Phase.exit? = some .returned) : after.lost = [] := by
  cases hgrown with
  | start | listen | take | call | giveUp | answer | send => simp [Phase.exit?] at hexit
  | stop hphase hfree =>
    rcases hfree with rfl | rfl <;> exact h.lost_of_phase hphase rfl
  | panic | abort => simp [Phase.exit?] at hexit
  | discard _ hnone => simp [hnone] at hreceiver
  | letGo hphase hold hnext =>
    apply h.returned hreceiver
    simpa [hphase, hold, hnext] using hexit

/-- A probe is in flight from its call on. -/
theorem probing_grown (hgrown : history.Grown isCancelled hasReceiver after) (host : Host)
    (hphase : after.phase? = some (.probing host)) :
    ∃ earlier, after.called = earlier ++ [host] := by
  cases hgrown with
  | call =>
    cases hphase
    exact ⟨_, rfl⟩
  | start | listen | stop | take | giveUp | answer | panic | send | discard | abort => cases hphase
  | letGo _ _ hnext =>
    cases hphase
    cases hnext

/-- A panic comes from a probe in flight. -/
theorem panicked_grown (h : history.Sound isCancelled hasReceiver)
    (hgrown : history.Grown isCancelled hasReceiver after)
    (hexit : after.phase?.bind Phase.exit? = some .panicked) :
    ∃ earlier host, after.called = earlier ++ [host] ∧ after.lost = [host] := by
  cases hgrown with
  | start | listen | take | call | giveUp | answer | send | stop | discard | abort =>
    simp [Phase.exit?] at hexit
  | panic hphase =>
    obtain ⟨earlier, hcalled⟩ := h.probing _ hphase
    exact ⟨earlier, _, hcalled, by simp [h.lost_of_phase hphase rfl]⟩
  | letGo hphase hold hnext =>
    apply h.panicked
    simpa [hphase, hold, hnext] using hexit

/-- A response that is made stays in hand until it is sent. -/
theorem made_grown (h : history.Sound isCancelled hasReceiver)
    (hgrown : history.Grown isCancelled hasReceiver after)
    (hkept : after.lost = [] ∨ after.phase?.bind Phase.exit? = some .panicked) :
    after.made = after.sent ++ (after.phase?.bind Phase.response?).toList := by
  cases hgrown with
  | start hphase =>
    have hold := h.made (.inl (h.lost (by simp [hphase])))
    simpa [hphase, Phase.response?] using hold
  | listen hphase | take _ hphase | call hphase | answer _ hphase | send hphase | panic hphase =>
    simpa [Phase.response?] using h.made_of_phase hphase rfl
  | stop hphase hfree =>
    rcases hfree with rfl | rfl <;> simpa [Phase.response?] using h.made_of_phase hphase rfl
  | giveUp hphase hhost =>
    rcases hhost with rfl | rfl <;> simpa [Phase.response?] using h.made_of_phase hphase rfl
  | discard => simp [Phase.exit?] at hkept
  | letGo hphase hexit hnext =>
    have hold := h.made (by simpa [hphase, hexit, hnext] using hkept)
    simpa [hphase, Phase.response?_of_exit? hexit, Phase.response?_of_exit? hnext] using hold
  | abort hphase hworking =>
    -- A worker that is dropped and loses nothing had no host, so no response either.
    have hhost := host?_of_abort hkept
    have hold := h.made_of_phase hphase (Phase.exit?_of_isWorking hworking)
    simpa [Phase.response?_of_host? hhost] using hold

/-- A response is made for the host in hand. -/
theorem made_handedOut_grown (h : history.Sound isCancelled hasReceiver)
    (hgrown : history.Grown isCancelled hasReceiver after) :
    ∀ response ∈ after.made, response.host ∈ after.handedOut := by
  have hold := h.made_handedOut
  cases hgrown with
  | start | listen | stop | call | panic | send | discard | letGo | abort => exact hold
  | take =>
    intro response hmem
    exact List.mem_append_left _ (hold response hmem)
  | giveUp hphase hhost =>
    intro response hmem
    rcases List.mem_append.mp hmem with hmem | hmem
    · exact hold response hmem
    · rw [List.mem_singleton.mp hmem]
      rcases hhost with rfl | rfl <;> exact h.mem_handedOut hphase rfl
  | answer status hphase =>
    intro response hmem
    rcases List.mem_append.mp hmem with hmem | hmem
    · exact hold response hmem
    · rw [List.mem_singleton.mp hmem]
      exact h.mem_handedOut hphase rfl

/-- Without a cancellation only an answer makes a response. -/
theorem answered_grown (h : history.Sound isCancelled hasReceiver)
    (hgrown : history.Grown isCancelled hasReceiver after) (htoken : isCancelled = false) :
    after.made = after.answered := by
  have hold := h.answered htoken
  cases hgrown with
  | answer => simpa using hold
  | giveUp _ _ hcancelled => simp [htoken] at hcancelled
  | start | listen | stop | take | call | panic | send | discard | letGo | abort => exact hold

/-- Without a cancellation a host in hand is probed before it leaves the hand. -/
theorem called_grown (h : history.Sound isCancelled hasReceiver)
    (hgrown : history.Grown isCancelled hasReceiver after) (htoken : isCancelled = false)
    (hkept : after.lost = [] ∨ after.phase?.bind Phase.exit? = some .panicked) :
    after.handedOut = after.called ++ (after.phase?.bind Phase.held?).toList := by
  cases hgrown with
  | start hphase =>
    have hold := h.called htoken (.inl (h.lost (by simp [hphase])))
    simpa [hphase, Phase.held?] using hold
  | listen hphase | take _ hphase | call hphase | answer _ hphase | send hphase | panic hphase =>
    simpa [Phase.held?] using h.called_of_phase htoken hphase rfl
  | stop hphase hfree =>
    rcases hfree with rfl | rfl <;>
      simpa [Phase.held?] using h.called_of_phase htoken hphase rfl
  | giveUp _ _ hcancelled => simp [htoken] at hcancelled
  | discard => simp [Phase.exit?] at hkept
  | letGo hphase hexit hnext =>
    have hold := h.called htoken (by simpa [hphase, hexit, hnext] using hkept)
    simpa [hphase, Phase.held?_of_exit? hexit, Phase.held?_of_exit? hnext] using hold
  | abort hphase hworking =>
    have hhost := host?_of_abort hkept
    have hold := h.called_of_phase htoken hphase (Phase.exit?_of_isWorking hworking)
    simpa [Phase.held?_of_host? hhost] using hold

/-- Whatever makes a history grow, it stays accounted for. -/
theorem grown (h : history.Sound isCancelled hasReceiver)
    (hgrown : history.Grown isCancelled hasReceiver after) :
    after.Sound isCancelled hasReceiver where
  handedOut := h.handedOut_grown hgrown
  lost := h.lost_grown hgrown
  returned := h.returned_grown hgrown
  probing := probing_grown hgrown
  panicked := h.panicked_grown hgrown
  made := h.made_grown hgrown
  made_handedOut := h.made_handedOut_grown hgrown
  answered := h.answered_grown hgrown
  called := h.called_grown hgrown

/-- A cancellation takes nothing from the account but what holds without one. -/
theorem cancel (h : history.Sound isCancelled hasReceiver) : history.Sound true hasReceiver :=
  { h with answered := by simp, called := by simp }

/-- Nor does the end of the receiver. -/
theorem dropReceiver (h : history.Sound isCancelled hasReceiver) :
    history.Sound isCancelled false :=
  { h with returned := by simp }

end Sound

end History

namespace Pool

variable {pool after : Pool} {event : Event}

/-- What happens to a pool leaves every history accounted for. -/
theorem sound_of_happen? {w : Nat}
    (h : (pool.history w).Sound pool.isCancelled pool.results.hasReceiver)
    (hevent : pool.happen? event = some after) :
    (after.history w).Sound after.isCancelled after.results.hasReceiver := by
  have hgrown : (after.history w).Sound pool.isCancelled pool.results.hasReceiver := by
    rcases history_of_happen? hevent w with heq | hgrown
    · rwa [heq]
    · exact h.grown hgrown
  have htoken : (after.history w).Sound after.isCancelled pool.results.hasReceiver := by
    rcases isCancelled_of_happen? hevent with heq | rfl
    · rwa [heq]
    · exact hgrown.cancel
  rcases hasReceiver_of_happen? hevent with heq | heq
  · rwa [heq]
  · rw [heq]
    exact htoken.dropReceiver

/-- In every pool that can come about, the history of every worker is accounted for. -/
theorem Reachable.sound {capacity slots : Nat} (h : Reachable capacity slots pool) (w : Nat) :
    (pool.history w).Sound pool.isCancelled pool.results.hasReceiver := by
  induction h with
  | new =>
    rw [history_new]
    exact History.unstarted_sound
  | step event _ hstep ih => exact sound_of_happen? ih hstep

end Pool

end HeaderScan
