import HeaderScan.Proofs.Pool.History

/-!
# Pools without a receiver

Once nobody receives the responses of a pool, nothing is sent any more. A worker comes back
to the queue only by sending a response, so it can take one more host, and no other after it.
-/

namespace HeaderScan

namespace History

variable {isCancelled hasReceiver : Bool} {before middle after : History}

/-- The hosts that a worker can still take when nobody receives its responses. -/
def toTake (history : History) : Nat :=
  match history.phase? with
  | none | some .idle | some .listening => 1
  | _ => 0

theorem toTake_le_one (history : History) : history.toTake ≤ 1 := by
  unfold toTake
  split <;> omega

/-- No host is taken once the work has ended. -/
theorem toTake_of_exit? {history : History} {phase : Phase} {exit : Exit}
    (hphase : history.phase? = some phase) (hexit : phase.exit? = some exit) :
    history.toTake = 0 := by
  rw [toTake, hphase]
  cases phase <;> first | rfl | cases hexit

/-- What can become of a history when nobody receives: new hosts use up those that can still
be taken. -/
def Unheeded (before after : History) : Prop :=
  ∃ new, after.handedOut = before.handedOut ++ new ∧ new.length + after.toTake ≤ before.toTake

theorem Unheeded.refl (history : History) : history.Unheeded history := ⟨[], by simp, by simp⟩

theorem Unheeded.trans (hfirst : before.Unheeded middle) (hlater : middle.Unheeded after) :
    before.Unheeded after := by
  obtain ⟨first, hfirstTaken, hfirstLength⟩ := hfirst
  obtain ⟨later, hlaterTaken, hlaterLength⟩ := hlater
  refine ⟨first ++ later, ?_, ?_⟩
  · rw [hlaterTaken, hfirstTaken, List.append_assoc]
  · rw [List.length_append]
    omega

/-- A worker comes back to the queue only by sending a response. -/
theorem Grown.unheeded (h : before.Grown isCancelled hasReceiver after)
    (hsent : after.sent = before.sent) : before.Unheeded after := by
  cases h with
  | start hphase | listen hphase => exact ⟨[], by simp, by simp [toTake, hphase]⟩
  | stop | call | giveUp | answer | panic | discard | abort =>
    exact ⟨[], by simp, by simp [toTake]⟩
  | letGo _ _ hnext =>
    refine ⟨[], by simp, ?_⟩
    rw [List.length_nil, Nat.zero_add, toTake_of_exit? (by rfl) hnext]
    exact Nat.zero_le _
  | take host hphase => exact ⟨[host], rfl, by simp [toTake, hphase]⟩
  | send => simp at hsent

end History

namespace Pool

variable {pool after : Pool} {event : Event} {events : List Event}

/-- Without a receiver nothing is sent. -/
theorem sent_of_happen? (hreceiver : pool.results.hasReceiver = false)
    (h : pool.happen? event = some after) : after.ledger.sent = pool.ledger.sent := by
  rcases ledger_of_happen? h with ⟨_, hledger⟩ | ⟨_, _, hmoved⟩
  · rw [hledger]
  · cases hmoved with
    | send _ hsome => cases hsome.symm.trans hreceiver
    | @letGo _ share => cases share <;> rfl
    | _ => rfl

/-- What becomes of a pool without a receiver, whatever happens next. -/
theorem follow?_unheeded (hreceiver : pool.results.hasReceiver = false)
    (h : pool.follow? events = some after) :
    after.results.hasReceiver = false ∧ after.ledger.sent = pool.ledger.sent ∧
      ∀ w, (pool.history w).Unheeded (after.history w) := by
  refine follow?_induction (motive := fun after => after.results.hasReceiver = false ∧
    after.ledger.sent = pool.ledger.sent ∧ ∀ w, (pool.history w).Unheeded (after.history w))
    ?_ ⟨hreceiver, rfl, fun _ => .refl _⟩ h
  rintro before next event ⟨hbefore, hsent, hunheeded⟩ hnext
  have hsame := sent_of_happen? hbefore hnext
  refine ⟨?_, hsame.trans hsent, fun w => (hunheeded w).trans ?_⟩
  · rcases hasReceiver_of_happen? hnext with heq | heq
    · rw [heq, hbefore]
    · exact heq
  · rcases history_of_happen? hnext w with heq | hgrown
    · rw [heq]
      exact .refl _
    · refine hgrown.unheeded ?_
      change entriesOf w (next.ledger.sent.map Delivery.entry) = _
      rw [hsame]
      rfl

end Pool

end HeaderScan
