/-
What the attempts of a call come to.

An attempt goes by the answer to its send (`Attempt.outcome_cases`). It is refused, and
the cycle goes on with another instance; or it timed out, and there may be another
cycle; or its outcome is conclusive, and the call is over.
-/
import RemoteCall.Proofs.Call.Story

namespace RemoteCall

/-! ## Outcomes -/

/-- The outcome says how the call went and not that it should be tried again: there is a reply,
whatever it says, or one that cannot be read, or the connection failed halfway. -/
def conclusive : Outcome → Bool
  | .ok _ => true
  | .error (.codec _) => true
  | .error (.invoke _) => true
  | .error _ => false

/-- A conclusive outcome is no connect error and no time-out. -/
theorem conclusive_error {e : CallError} (h : conclusive (.error e) = true) :
    e.isConnect = false ∧ e.isTimeout = false := by
  cases e with
  | codec _ => exact ⟨rfl, rfl⟩
  | invoke _ => exact ⟨rfl, rfl⟩
  | _ => simp [conclusive] at h

theorem CallError.isConnect_of_isTimeout {e : CallError} (h : e.isTimeout = true) :
    e.isConnect = false := by
  cases e <;> first | rfl | cases h

/-! ## Attempts -/

namespace Attempt

variable {ω : Type} {s : Surroundings ω} {call : Invocation} {a : Attempt ω}

theorem refused_iff :
    a.refused = true ↔ ∃ message, a.answer = .error (.connect message) := by
  unfold refused
  cases a.answer with
  | ok response => simp
  | error fault => cases fault <;> simp

theorem refused_of_timedOut (h : a.timedOut = true) : a.refused = false := by
  unfold timedOut at h
  unfold refused
  split at h
  · next ha => rw [ha]
  · next ha => rw [ha]
  · cases h

/-- **What an attempt comes to** goes by the answer to its send: a connect error if the instance
was not reached, a time-out if the send timed out or was cancelled, and something conclusive
otherwise. -/
theorem outcome_cases (h : a.outcome = s.outcome call a.node a.answer) :
    (∃ message, a.answer = .error (.connect message) ∧
      a.outcome = .error (.connect a.node.address message)) ∨
    (a.refused = false ∧ a.timedOut = true ∧
      ∃ e, a.outcome = .error e ∧ e.isTimeout = true) ∨
    (a.refused = false ∧ a.timedOut = false ∧ conclusive a.outcome = true) := by
  unfold refused timedOut
  unfold Surroundings.outcome at h
  cases ha : a.answer with
  | ok response =>
    simp only [ha] at h
    refine .inr (.inr ⟨rfl, rfl, ?_⟩)
    rw [h]
    -- A response is conclusive even if it cannot be decoded.
    cases s.plugins.decodeReply call.method.codec.serializer response <;> rfl
  | error fault =>
    simp only [ha] at h
    cases fault with
    | connect message => exact .inl ⟨message, rfl, h⟩
    | timeout message => exact .inr (.inl ⟨rfl, rfl, _, h, rfl⟩)
    | cancelled message => exact .inr (.inl ⟨rfl, rfl, _, h, rfl⟩)
    | other message => exact .inr (.inr ⟨rfl, rfl, by rw [h]; rfl⟩)

theorem outcome_of_refused (h : a.outcome = s.outcome call a.node a.answer)
    (refused : a.refused = true) :
    ∃ message, a.answer = .error (.connect message) ∧
      a.outcome = .error (.connect a.node.address message) := by
  rcases outcome_cases h with hconnect | ⟨hr, -⟩ | ⟨hr, -⟩
  · exact hconnect
  · rw [refused] at hr
    cases hr
  · rw [refused] at hr
    cases hr

/-- A send that reached its instance came to a time-out or to something conclusive. -/
theorem outcome_of_reached (h : a.outcome = s.outcome call a.node a.answer)
    (reached : a.refused = false) :
    (a.timedOut = true ∧ ∃ e, a.outcome = .error e ∧ e.isTimeout = true) ∨
      (a.timedOut = false ∧ conclusive a.outcome = true) := by
  rcases outcome_cases h with ⟨message, ha, -⟩ | ⟨-, htimeout⟩ | ⟨-, hconclusive⟩
  · rw [refused_iff.mpr ⟨message, ha⟩] at reached
    cases reached
  · exact .inl htimeout
  · exact .inr hconclusive

theorem isConnect_of_reached (h : a.outcome = s.outcome call a.node a.answer)
    (reached : a.refused = false) {e : CallError} (he : a.outcome = .error e) :
    e.isConnect = false := by
  rcases outcome_of_reached h reached with ⟨-, e', he', ht⟩ | ⟨-, hconclusive⟩
  · rw [he', Except.error.injEq] at he
    rw [← he, CallError.isConnect_of_isTimeout ht]
  · rw [he] at hconclusive
    exact (conclusive_error hconclusive).1

/-- The outcome of an attempt restarts the cycle exactly if the send timed out or was
cancelled. No response does, whatever it says. -/
theorem timedOut_iff (h : a.outcome = s.outcome call a.node a.answer) :
    a.timedOut = true ↔ ∃ e, a.outcome = .error e ∧ e.isTimeout = true := by
  rcases outcome_cases h with ⟨message, ha, ho⟩ | ⟨-, ht, hearly⟩ | ⟨-, ht, hc⟩
  · simp [timedOut, ha, ho, CallError.isTimeout]
  · exact iff_of_true ht hearly
  · refine iff_of_false (by rw [ht]; simp) ?_
    rintro ⟨e, he, he'⟩
    rw [he] at hc
    rw [(conclusive_error hc).2] at he'
    cases he'

/-- A conclusive outcome is not that of a send that timed out. -/
theorem timedOut_of_conclusive (h : a.outcome = s.outcome call a.node a.answer)
    (final : conclusive a.outcome = true) : a.timedOut = false := by
  rw [← Bool.not_eq_true, timedOut_iff h]
  rintro ⟨e, he, ht⟩
  rw [he] at final
  rw [(conclusive_error final).2] at ht
  cases ht

end Attempt

end RemoteCall
