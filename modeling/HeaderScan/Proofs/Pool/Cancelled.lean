import HeaderScan.Proofs.Pool.Custody
import HeaderScan.Proofs.Tally

/-!
# Pools after the cancellation

Once the token is cancelled no probe starts and no worker begins to wait for a host. A
worker that was waiting, or had a host without a response, can still make one response;
after that it takes no host again. The responses of which the cancellation is to blame
are therefore no more than the workers.
-/

namespace HeaderScan

namespace Phase

/-- The responses that a worker can still make once the token is cancelled. -/
def toCome : Phase → Nat
  | listening | holding _ | probing _ => 1
  | _ => 0

theorem toCome_le_one (phase : Phase) : phase.toCome ≤ 1 := by
  cases phase <;> simp [toCome]

/-- No response can come from a worker whose work has ended. -/
theorem toCome_of_exit? {phase : Phase} {exit : Exit} (h : phase.exit? = some exit) :
    phase.toCome = 0 := by
  cases phase <;> first | rfl | cases h

end Phase

namespace History

variable {hasReceiver : Bool} {before middle after : History}

/-- The responses that can still come to a history once the token is cancelled. -/
def toCome (history : History) : Nat :=
  match history.phase? with
  | some phase => phase.toCome
  | none => 0

theorem toCome_of_phase {history : History} {phase : Phase}
    (hphase : history.phase? = some phase) : history.toCome = phase.toCome := by
  rw [toCome, hphase]

/-- No worker can make two more responses. -/
theorem toCome_le_one (history : History) : history.toCome ≤ 1 := by
  cases hphase : history.phase? with
  | none => simp [toCome, hphase]
  | some phase =>
    rw [toCome_of_phase hphase]
    exact phase.toCome_le_one

/-- What can become of a history once the token is cancelled. -/
structure Waned (before after : History) : Prop where
  /-- New responses use up those that can still come. -/
  made : ∃ new, after.made = before.made ++ new ∧ new.length + after.toCome ≤ before.toCome
  /-- When none can come no host is taken. -/
  handedOut : before.toCome = 0 → after.handedOut = before.handedOut
  /-- Answers are not forgotten. -/
  answered : before.answered <+: after.answered

theorem Waned.refl (history : History) : history.Waned history :=
  ⟨⟨[], by simp, by simp⟩, fun _ => rfl, List.prefix_refl _⟩

theorem Waned.trans (hfirst : before.Waned middle) (hlater : middle.Waned after) :
    before.Waned after := by
  obtain ⟨first, hfirstMade, hfirstLength⟩ := hfirst.made
  obtain ⟨later, hlaterMade, hlaterLength⟩ := hlater.made
  refine ⟨⟨first ++ later, ?_, ?_⟩, fun hnone => ?_, hfirst.answered.trans hlater.answered⟩
  · rw [hlaterMade, hfirstMade, List.append_assoc]
  · rw [List.length_append]
    omega
  · rw [hlater.handedOut (by omega), hfirst.handedOut hnone]

/-- A history that makes no response wanes when it takes no host and can make no more
responses than before. -/
theorem Waned.of_made_eq (hmade : after.made = before.made) (hcome : after.toCome ≤ before.toCome)
    (hhandedOut : after.handedOut = before.handedOut)
    (hanswered : after.answered = before.answered) : before.Waned after :=
  ⟨⟨[], by simp [hmade], by simpa using hcome⟩, fun _ => hhandedOut,
    hanswered ▸ List.prefix_refl _⟩

/-- Once the token is cancelled a history only wanes. -/
theorem Grown.waned (h : before.Grown true hasReceiver after) : before.Waned after := by
  cases h with
  | start hphase =>
    exact .of_made_eq rfl (by simp [toCome, Phase.toCome]) rfl rfl
  | listen _ htoken | call _ htoken => cases htoken
  | stop => exact .of_made_eq rfl (by simp [toCome, Phase.toCome]) rfl rfl
  | take host hphase =>
    refine ⟨⟨[], by simp, ?_⟩, fun hnone => ?_, List.prefix_refl _⟩
    · simp [toCome, hphase, Phase.toCome]
    · simp [toCome, hphase, Phase.toCome] at hnone
  | giveUp hphase hhost =>
    refine ⟨⟨_, rfl, ?_⟩, fun _ => rfl, List.prefix_refl _⟩
    rcases hhost with rfl | rfl <;> simp [toCome, hphase, Phase.toCome]
  | answer status hphase =>
    refine ⟨⟨_, rfl, ?_⟩, fun _ => rfl, List.prefix_append _ _⟩
    simp [toCome, hphase, Phase.toCome]
  | panic | send | discard | abort =>
    exact .of_made_eq rfl (by simp [toCome, Phase.toCome]) rfl rfl
  | letGo _ _ hnext =>
    exact .of_made_eq rfl (by simp [toCome, Phase.toCome_of_exit? hnext]) rfl rfl

/-- Of the responses made at most one, with those that can still come, is no answer that
was given before the cancellation. -/
def Spent (history : History) : Prop :=
  ∃ earlier new, history.made = earlier ++ new ∧ new.length + history.toCome ≤ 1 ∧
    ∀ response ∈ earlier, response ∈ history.answered

/-- When every response comes from an answer, nothing is spent yet. -/
theorem spent_of_answered {history : History} (h : history.made = history.answered) :
    history.Spent :=
  ⟨history.made, [], by simp, by simpa using history.toCome_le_one, fun _ hmem => h ▸ hmem⟩

/-- While a history wanes, what is spent stays so. -/
theorem Spent.waned (h : before.Spent) (hwaned : before.Waned after) : after.Spent := by
  obtain ⟨earlier, new, hmade, hlength, hanswered⟩ := h
  obtain ⟨later, hlater, hcome⟩ := hwaned.made
  refine ⟨earlier, new ++ later, ?_, ?_, fun response hmem => ?_⟩
  · rw [hlater, hmade, List.append_assoc]
  · rw [List.length_append]
    omega
  · exact hwaned.answered.subset (hanswered response hmem)

/-- When no answer has some property, at most one response has it. -/
theorem Spent.countP_le {history : History} (h : history.Spent) {counted : Response → Bool}
    (hnone : ∀ response ∈ history.answered, counted response = false) :
    history.made.countP counted ≤ 1 := by
  obtain ⟨earlier, new, hmade, hlength, hanswered⟩ := h
  have hearlier : earlier.countP counted = 0 := by
    apply List.countP_eq_zero.mpr
    intro response hmem
    simp [hnone response (hanswered response hmem)]
  have hnew := List.countP_le_length (l := new) (p := counted)
  rw [hmade, List.countP_append]
  omega

end History

namespace Pool

variable {capacity slots w : Nat} {pool after : Pool} {event : Event} {events : List Event}

/-- Once the token is cancelled every history only wanes. -/
theorem waned_of_happen? (htoken : pool.isCancelled = true)
    (h : pool.happen? event = some after) (w : Nat) :
    (pool.history w).Waned (after.history w) := by
  rcases history_of_happen? h w with heq | hgrown
  · rw [heq]
    exact .refl _
  · rw [htoken] at hgrown
    exact hgrown.waned

/-- Once the token is cancelled no probe starts. -/
theorem called_of_happen? (htoken : pool.isCancelled = true)
    (h : pool.happen? event = some after) : after.ledger.called = pool.ledger.called := by
  rcases ledger_of_happen? h with ⟨_, hledger⟩ | ⟨_, _, hmoved⟩
  · rw [hledger]
  · cases hmoved with
    | call _ hnone => cases hnone.symm.trans htoken
    | @letGo _ share => cases share <;> rfl
    | _ => rfl

/-- A token that is cancelled stays so. -/
theorem isCancelled_of_isCancelled (htoken : pool.isCancelled = true)
    (h : pool.happen? event = some after) : after.isCancelled = true := by
  rcases isCancelled_of_happen? h with heq | rfl
  · rw [heq, htoken]
  · rfl

/-- What becomes of a cancelled pool, whatever happens next. -/
theorem follow?_cancelled (htoken : pool.isCancelled = true)
    (h : pool.follow? events = some after) :
    after.isCancelled = true ∧ after.ledger.called = pool.ledger.called ∧
      ∀ w, (pool.history w).Waned (after.history w) := by
  refine follow?_induction (motive := fun after => after.isCancelled = true ∧
    after.ledger.called = pool.ledger.called ∧ ∀ w, (pool.history w).Waned (after.history w))
    ?_ ⟨htoken, rfl, fun _ => .refl _⟩ h
  rintro before next event ⟨hbefore, hcalled, hwaned⟩ hnext
  refine ⟨isCancelled_of_isCancelled hbefore hnext, ?_, fun w => ?_⟩
  · rw [called_of_happen? hbefore hnext, hcalled]
  · exact (hwaned w).trans (waned_of_happen? hbefore hnext w)

/-- What a cancelled pool does not do any more. -/
structure Stilled (before after : Pool) : Prop where
  /-- It starts no probe. -/
  called : after.ledger.called = before.ledger.called
  /-- A worker makes at most one more response, and takes no host after it. -/
  made : ∀ w, ∃ new, (after.history w).made = (before.history w).made ++ new ∧
    new.length ≤ 1 ∧
    (new ≠ [] → ∀ events last, after.follow? events = some last →
      (last.history w).handedOut = (after.history w).handedOut)

/-- Whatever happens to a cancelled pool, it does nothing of this any more. -/
theorem stilled_of_follow? (htoken : pool.isCancelled = true)
    (h : pool.follow? events = some after) : pool.Stilled after := by
  obtain ⟨hcancelled, hcalled, hwaned⟩ := follow?_cancelled htoken h
  refine ⟨hcalled, fun w => ?_⟩
  obtain ⟨new, hmade, hlength⟩ := (hwaned w).made
  have hone := (pool.history w).toCome_le_one
  refine ⟨new, hmade, by omega, fun hnew events last hlast => ?_⟩
  have hpos := List.length_pos_iff.mpr hnew
  exact ((follow?_cancelled hcancelled hlast).2.2 w).handedOut (by omega)

/-- In every pool that can come about, the answers given before the cancellation account
for all responses of a worker but one. -/
theorem Reachable.spent (h : Reachable capacity slots pool) (w : Nat) :
    (pool.history w).Spent := by
  induction h with
  | new =>
    rw [history_new]
    exact History.spent_of_answered rfl
  | @step before after event hbefore hstep ih =>
    cases htoken : before.isCancelled with
    | true => exact ih.waned (waned_of_happen? htoken hstep w)
    | false =>
      rcases isCancelled_of_happen? hstep with heq | rfl
      · have hsound := (Reachable.step event hbefore hstep).sound w
        exact History.spent_of_answered (hsound.answered (heq.trans htoken))
      · exact ih

/-- A worker that is not started has done nothing. -/
theorem Reachable.unstarted (h : Reachable capacity slots pool)
    (hphase : pool.phases[w]? = none) : pool.history w = .unstarted := by
  induction h with
  | new => exact history_new _ _ w
  | @step before after event _ hstep ih =>
    rcases history_of_happen? hstep w with heq | hgrown
    · rw [heq]
      exact ih (by rw [← hphase]; exact congrArg History.phase? heq.symm)
    · obtain ⟨phase, hsome⟩ := hgrown.exists_phase
      cases hsome.symm.trans hphase

/-- No probe answered by itself that it was cancelled. -/
def AnswersPlainly (pool : Pool) : Prop :=
  ∀ delivery ∈ pool.ledger.answered, delivery.response.status ≠ .cancelled

instance : Decidable pool.AnswersPlainly :=
  inferInstanceAs (Decidable (∀ delivery ∈ pool.ledger.answered,
    delivery.response.status ≠ .cancelled))

/-- The number of responses that say that their host was abandoned. -/
def abandoned (log : List Delivery) : Nat := log.countP (·.response.status.isCancelled)

/-- They are counted among the entries of a log of responses. -/
theorem abandoned_eq (log : List Delivery) : abandoned log =
    (log.map Delivery.entry).countP fun entry => entry.2.status.isCancelled := by
  rw [List.countP_map]
  rfl

/-- Unless a probe says so by itself, no more hosts are abandoned than there are workers. -/
theorem Reachable.abandoned_le (h : Reachable capacity slots pool) (hplain : pool.AnswersPlainly) :
    abandoned pool.ledger.made ≤ pool.phases.length := by
  have hone (w : Nat) : (entriesOf w (pool.ledger.made.map Delivery.entry)).countP
      (·.status.isCancelled) ≤ 1 := by
    apply (h.spent w).countP_le
    intro response hmem
    obtain ⟨delivery, hanswered, hentry⟩ := List.mem_map.mp (mem_entriesOf.mp hmem)
    have hstatus := hplain delivery hanswered
    cases hentry
    simpa [← Status.isCancelled_iff] using hstatus
  have hworkers (w : Nat) (hw : pool.phases.length ≤ w) :
      entriesOf w (pool.ledger.made.map Delivery.entry) = [] := by
    have hnone : pool.phases[w]? = none := by simpa using hw
    exact congrArg History.made (h.unstarted hnone)
  rw [abandoned_eq]
  exact countP_le_of_entriesOf (·.status.isCancelled) hone hworkers

/-- Every response is about a host that its worker has taken. -/
theorem Reachable.place_mem_handedOut (h : Reachable capacity slots pool) {delivery : Delivery}
    (hmem : delivery ∈ pool.ledger.made) : delivery.place ∈ pool.ledger.handedOut := by
  apply mem_entriesOf.mp
  exact (h.sound delivery.worker).made_handedOut delivery.response
    (mem_entriesOf.mpr (List.mem_map_of_mem hmem))

end Pool

end HeaderScan
