import Mathlib
import TestScenario.History.Remote
import TestScenario.Http.Interview

/-!
How often the service that keeps runs is called, and when. A call is tried again until its outcome is final or there are
no more tries, and nothing but a pause comes between two attempts (`attempts_end`). So there are as many requests as it
takes to come to the first final outcome, but no more than one more than the retries, and none follows a success or a
rejection (`requests_until_final`).
-/

namespace TestScenario

namespace Http

/-- An outcome that trying again would not change: a success, or any other answer that tells of no failure of the
    server. -/
def Final (outcome : Except Fault Response) : Prop :=
  ∃ answer, outcome = .ok answer ∧ (isSuccess answer.status ∨ ¬ isServerFailure answer.status)

/-- A call may end with a request whose outcome is final, or with the last one that the retries leave it. -/
def EndsWith (outcomes : Nat → Except Fault Response) (retries n : Nat) : Prop :=
  0 < n ∧ (Final (outcomes (n - 1)) ∨ n = retries + 1)

/-- Whether a question is a request. -/
def Question.isSend : Question → Bool
  | .send _ => true
  | .pause _ => false

/-- A transport that answers one request after the other by a sequence of outcomes. Its state is all that has been
    asked of it. -/
def Transport.scripted (outcomes : Nat → Except Fault Response) : Transport (List Question) where
  send r asked := (outcomes (asked.countP Question.isSend), asked ++ [.send r])
  pause ms asked := asked ++ [.pause ms]
  now _ := 0

theorem mapError_eq_ok_iff {f : Fault → Fault} {outcome : Except Fault Response} {answer : Response} :
    outcome.mapError f = .ok answer ↔ outcome = .ok answer := by
  cases outcome <;> simp [Except.mapError]

theorem final_mapError_iff {f : Fault → Fault} {outcome : Except Fault Response} :
    Final (outcome.mapError f) ↔ Final outcome := by
  simp only [Final, mapError_eq_ok_iff]

theorem not_final_error (cause : Fault) : ¬ Final (.error cause) := by
  rintro ⟨answer, absurd, -⟩
  cases absurd

theorem exists_least_end (outcomes : Nat → Except Fault Response) (retries : Nat) :
    ∃ n, IsLeast {n | EndsWith outcomes retries n} n := by
  classical
  have ends : ∃ n, EndsWith outcomes retries n := ⟨_, Nat.succ_pos retries, .inr rfl⟩
  exact ⟨Nat.find ends, Nat.find_spec ends, fun n other => Nat.find_min' ends other⟩

theorem not_final_of_least {outcomes : Nat → Except Fault Response} {retries n k : Nat}
    (least : IsLeast {n | EndsWith outcomes retries n} n) (before : k < n - 1) : ¬ Final (outcomes k) := by
  intro final
  have bound : n ≤ k + 1 := least.2 ⟨Nat.succ_pos k, .inl final⟩
  omega

end Http

namespace RemoteHistory
open Http

/-! ### Attempts on any transport -/

section
variable {τ : Type} (t : Transport τ) (d : Draft) (s : τ) {outcome : Except Fault Response} {answer : Response}
  {failed left made retries n : Nat}

theorem isFailure_attemptOf_iff : (attemptOf d outcome).isFailure ↔ ¬ Final outcome := by
  cases outcome with
  | error cause => simp [attemptOf, Attempt.isFailure, not_final_error]
  | ok answer =>
    by_cases success : isSuccess answer.status
    · simp [attemptOf, Attempt.isFailure, Final, success]
    · by_cases failure : isServerFailure answer.status
      · simp [attemptOf, Attempt.isFailure, Final, success, failure]
      · simp [attemptOf, Attempt.isFailure, Final, success, failure]

theorem ending_attemptOf_eq_ok_iff :
    (attemptOf d outcome).ending made = .ok answer ↔ outcome = .ok answer ∧ isSuccess answer.status := by
  cases outcome with
  | error cause => simp [attemptOf, Attempt.ending]
  | ok a =>
    by_cases success : isSuccess a.status
    · have accepted : attemptOf d (.ok a) = .accepted a := by simp [attemptOf, success]
      rw [accepted, Attempt.ending, Except.ok.injEq]
      exact ⟨fun same => ⟨same, same ▸ success⟩, And.left⟩
    · have refused : ∀ answer, (attemptOf d (.ok a)).ending made ≠ .ok answer := by
        intro answer
        by_cases failure : isServerFailure a.status
        · simp [attemptOf, Attempt.ending, success, failure]
        · simp [attemptOf, Attempt.ending, success, failure]
      simp only [refused, false_iff, Except.ok.injEq, not_and]
      rintro rfl
      exact success

/-- Another attempt is made exactly where the last one may be mended by it, and there is one left. -/
theorem attempts_succ (fails : ¬ Final (t.deliver d s).1) :
    attempts t d failed (left + 1) s = attempts t d (failed + 1) left (t.pause (pauseMs failed) (t.deliver d s).2) := by
  rw [attempts, attempt]
  exact if_pos ((isFailure_attemptOf_iff d).mpr fails)

theorem attempts_last (last : Final (t.deliver d s).1 ∨ left = 0) :
    attempts t d failed left s = ((attemptOf d (t.deliver d s).1).ending (failed + 1), (t.deliver d s).2) := by
  cases left with
  | zero => rw [attempts, attempt]
  | succ left =>
    have final := last.resolve_right (Nat.succ_ne_zero left)
    rw [attempts, attempt]
    exact if_neg fun failure => (isFailure_attemptOf_iff d).mp failure final

/-- The state of a transport after some attempts that failed, with a pause behind each. -/
def afterFailures : Nat → τ
  | 0 => s
  | k + 1 => t.pause (pauseMs k) (t.deliver d (afterFailures k)).2

/-- What comes of the attempt that follows so many others. -/
def outcomeOf (k : Nat) : Except Fault Response := (t.deliver d (afterFailures t d s k)).1

/-- As long as all attempts fail, those that follow are made where these have led. -/
theorem attempts_of_failures {k : Nat} (few : k ≤ retries) (fails : ∀ j < k, ¬ Final (outcomeOf t d s j)) :
    attempts t d 0 retries s = attempts t d k (retries - k) (afterFailures t d s k) := by
  induction k with
  | zero => rfl
  | succ k ih =>
    have left : retries - k = (retries - (k + 1)) + 1 := by omega
    rw [ih (by omega) fun j before => fails j (by omega), left, attempts_succ t d _ (fails k (Nat.lt_succ_self k))]
    rfl

/-- The attempts end with the first one whose outcome is final, or with the last one. -/
theorem attempts_end (least : IsLeast {n | EndsWith (outcomeOf t d s) retries n} n) :
    attempts t d 0 retries s =
      ((attemptOf d (outcomeOf t d s (n - 1))).ending n, (t.deliver d (afterFailures t d s (n - 1))).2) := by
  have positive : 0 < n := least.1.1
  have few : n ≤ retries + 1 := least.2 ⟨Nat.succ_pos retries, .inr rfl⟩
  have ends : Final (outcomeOf t d s (n - 1)) ∨ retries - (n - 1) = 0 := least.1.2.imp_right (by omega)
  rw [attempts_of_failures t d s (by omega) fun j before => not_final_of_least least before,
    attempts_last t d _ ends, Nat.sub_add_cancel positive]
  rfl

end

/-! ### Attempts with given outcomes -/

section
variable {d : Draft} {r : Request} {outcomes : Nat → Except Fault Response}

/-- So many requests, with a pause behind each. -/
def paused (r : Request) (requests : Nat) : List Question :=
  (List.range requests).flatMap fun k => [.send r, .pause (pauseMs k)]

theorem paused_succ (r : Request) (k : Nat) : paused r (k + 1) = paused r k ++ [.send r, .pause (pauseMs k)] := by
  rw [paused, List.range_succ, List.flatMap_append, List.flatMap_singleton, paused]

theorem countP_paused (r : Request) (k : Nat) : (paused r k).countP Question.isSend = k := by
  induction k with
  | zero => rfl
  | succ k ih => rw [paused_succ, List.countP_append, ih]; rfl

theorem deliver_scripted (outcomes : Nat → Except Fault Response) (sendable : d.request = .ok r)
    (asked : List Question) :
    ∃ f, (Transport.scripted outcomes).deliver d asked =
      ((outcomes (asked.countP Question.isSend)).mapError f, asked ++ [.send r]) := by
  rw [Transport.deliver, sendable]
  exact ⟨_, rfl⟩

theorem afterFailures_scripted (sendable : d.request = .ok r) (k : Nat) :
    afterFailures (.scripted outcomes) d [] k = paused r k := by
  induction k with
  | zero => rfl
  | succ k ih =>
    obtain ⟨f, delivered⟩ := deliver_scripted outcomes sendable (paused r k)
    rw [afterFailures, ih, delivered, paused_succ]
    exact List.append_assoc _ _ _

theorem outcomeOf_scripted (outcomes : Nat → Except Fault Response) (sendable : d.request = .ok r) (k : Nat) :
    ∃ f, outcomeOf (.scripted outcomes) d [] k = (outcomes k).mapError f := by
  obtain ⟨f, delivered⟩ := deliver_scripted outcomes sendable (paused r k)
  rw [outcomeOf, afterFailures_scripted sendable, delivered, countP_paused]
  exact ⟨f, rfl⟩

theorem endsWith_scripted_iff (sendable : d.request = .ok r) (retries n : Nat) :
    EndsWith (outcomeOf (.scripted outcomes) d []) retries n ↔ EndsWith outcomes retries n := by
  obtain ⟨f, outcome⟩ := outcomeOf_scripted outcomes sendable (n - 1)
  rw [EndsWith, outcome, final_mapError_iff, EndsWith]

/-- A draft that is no request is never sent, however often this is tried. -/
theorem deliver_scripted_of_error {e : DraftError} (faulty : d.request = .error e) (asked : List Question) :
    (Transport.scripted outcomes).deliver d asked = (.error e.fault, asked) := by
  rw [Transport.deliver, faulty]

theorem afterFailures_scripted_of_error {e : DraftError} (faulty : d.request = .error e) (k : Nat) :
    afterFailures (.scripted outcomes) d [] k = (List.range k).map fun j => .pause (pauseMs j) := by
  induction k with
  | zero => rfl
  | succ k ih =>
    rw [afterFailures, ih, deliver_scripted_of_error faulty, List.range_succ, List.map_append]
    rfl

theorem least_end_of_error {e : DraftError} (faulty : d.request = .error e) (retries : Nat) :
    IsLeast {n | EndsWith (outcomeOf (.scripted outcomes) d []) retries n} (retries + 1) := by
  refine ⟨⟨Nat.succ_pos retries, .inr rfl⟩, ?_⟩
  rintro n ⟨-, final | last⟩
  · rw [outcomeOf, deliver_scripted_of_error faulty] at final
    exact absurd final (not_final_error _)
  · exact last.ge

end

/-- How the service is called, whatever comes of the requests. A call that can be sent is sent up to the first outcome
    that is final, or once more often than there are retries. So each request but the last one has failed in a way
    that may pass, with a pause behind it, and nothing follows the last one, whose success is that of the call. A call
    that cannot be sent counts as one that fails each time. -/
theorem requests_until_final (h : RemoteHistory) (method path : String) (body : Json)
    (outcomes : Nat → Except Fault Response) :
    let d := h.call method path body
    let sent := h.send (.scripted outcomes) method path body []
    (∀ r, d.request = .ok r →
      ∃ n, IsLeast {n | EndsWith outcomes h.maxRetries n} n ∧
        sent.2.countP Question.isSend = n ∧ sent.2 = paused r (n - 1) ++ [.send r] ∧
        (∀ k < n - 1, ¬ Final (outcomes k)) ∧
        ∀ answer, sent.1 = .ok answer ↔ outcomes (n - 1) = .ok answer ∧ isSuccess answer.status) ∧
    ∀ e, d.request = .error e →
      sent.2 = ((List.range h.maxRetries).map fun k => .pause (pauseMs k)) ∧ ∀ answer, sent.1 ≠ .ok answer := by
  intro d sent
  have called : attempts (.scripted outcomes) d 0 h.maxRetries [] = sent := rfl
  constructor
  · intro r sendable
    obtain ⟨n, least⟩ := exists_least_end outcomes h.maxRetries
    have ends := attempts_end (.scripted outcomes) d [] (by simpa only [endsWith_scripted_iff sendable] using least)
    obtain ⟨f, outcome⟩ := outcomeOf_scripted outcomes sendable (n - 1)
    obtain ⟨g, delivered⟩ := deliver_scripted outcomes sendable (paused r (n - 1))
    rw [called, outcome, afterFailures_scripted sendable, delivered] at ends
    refine ⟨n, least, ?_, ?_, fun k before => not_final_of_least least before, ?_⟩
    · rw [ends, List.countP_append, countP_paused]
      exact Nat.sub_add_cancel least.1.1
    · rw [ends]
    · intro answer
      rw [ends, ending_attemptOf_eq_ok_iff, mapError_eq_ok_iff]
  · intro e faulty
    have ends := attempts_end (.scripted outcomes) d [] (least_end_of_error faulty h.maxRetries)
    rw [called, outcomeOf, Nat.add_sub_cancel, afterFailures_scripted_of_error faulty,
      deliver_scripted_of_error faulty] at ends
    refine ⟨by rw [ends], fun answer accepted => ?_⟩
    rw [ends, ending_attemptOf_eq_ok_iff] at accepted
    cases accepted.1

/-- The server fails, then the network does, and then the record is created: three requests, and no fourth one, which
    would create another record. -/
theorem requests_until_created :
    let h : RemoteHistory := { apiUrl := "http://[::1]/", apiKey := "key", maxRetries := 5 }
    let created : Response := { status := 201, headers := [], body := .ok "\x7b\"id\":7\x7d" }
    let outcomes : Nat → Except Fault Response
      | 0 => .ok { status := 503, headers := [], body := .ok "busy" }
      | 1 => .error noNetwork
      | _ => .ok created
    ∃ r, (h.call "POST" "executions" (.object [])).request = .ok r ∧
      h.send (.scripted outcomes) "POST" "executions" (.object []) [] =
        (.ok created, [.send r, .pause 500, .send r, .pause 1000, .send r]) := by
  intro h created outcomes
  let url : Url := { scheme := "http", host := some (.ipv6 [0, 0, 0, 0, 0, 0, 0, 1]), path := .parts ["v1", "executions"] }
  let r : Request := {
    method := "POST", url
    headers := [("Authorization", "Bearer key"), ("Content-Type", "application/json")]
    body := some "\x7b\x7d" }
  have sendable : (h.call "POST" "executions" (.object [])).request = .ok r := by decide +kernel
  have first : ¬ Final (outcomes 0) := by simp [Final, outcomes, isSuccess, isServerFailure]
  have second : ¬ Final (outcomes 1) := not_final_error noNetwork
  have least : IsLeast {n | EndsWith outcomes h.maxRetries n} 3 := by
    refine ⟨⟨by decide, .inl ⟨created, rfl, .inl rfl⟩⟩, ?_⟩
    intro n ends
    by_contra few
    obtain rfl | rfl : n = 1 ∨ n = 2 := by have := ends.1; omega
    · exact ends.2.elim first (by decide)
    · exact ends.2.elim second (by decide)
  obtain ⟨n, leastly, -, asked, -, answered⟩ :=
    (requests_until_final h "POST" "executions" (.object []) outcomes).1 r sendable
  obtain rfl : n = 3 := leastly.unique least
  exact ⟨r, sendable, Prod.ext ((answered created).mpr ⟨rfl, rfl⟩) asked⟩

end RemoteHistory
end TestScenario
