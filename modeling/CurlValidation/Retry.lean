import CurlValidation.Basic

/-!
# The retry engine

`validation_retry_with_backoff` performs the request on one handle until an attempt succeeds,
fails in a way it does not retry, or `retry_count` reaches `max_retries`. The transport is the
environment: `transport i` is what the `i`-th `curl_easy_perform` (from 0) reports.

The loop runs on fuel `max_retries`: every pass that goes round again increments
`retry_count`, so the guard `retry_count < max_retries` stops it first (`retryLoop_succ_fuel`).
`backoff_ms` is an `int`: its doubling wraps in 32-bit two's complement, and a ghost flag records
that it overflowed.
-/

namespace CurlValidation

/-- The locals of `validation_retry_with_backoff`, with what it has done so far. -/
structure RetryState where
  /-- `res`, `none` while it has not been assigned. -/
  res : Option CURLcode
  retryCount : Int
  backoffMs : Int
  /-- The `curl_easy_perform` calls made. -/
  attempts : Nat
  /-- The arguments passed to `sleep`, in order, as the `int` `backoff_ms / 1000`. -/
  sleeps : List Int
  /-- Whether some `backoff_ms *= 2` left the range of `int`. -/
  overflowed : Bool
deriving DecidableEq, Repr

namespace RetryState

def initial : RetryState := ⟨none, 0, 1000, 0, [], false⟩

/-- `sleep(backoff_ms / 1000); backoff_ms *= 2;` The division truncates and the product wraps as
a 32-bit `int`. -/
def sleepAndDouble (s : RetryState) : RetryState :=
  { s with sleeps := s.sleeps ++ [s.backoffMs.tdiv 1000], backoffMs := wrapInt (s.backoffMs * 2),
           overflowed := s.overflowed || !decide (FitsInt (s.backoffMs * 2)) }

/-- `retry_count++;` -/
def countRetry (s : RetryState) : RetryState := { s with retryCount := s.retryCount + 1 }

@[simp] theorem sleepAndDouble_retryCount (s : RetryState) :
    s.sleepAndDouble.retryCount = s.retryCount := rfl
@[simp] theorem sleepAndDouble_attempts (s : RetryState) :
    s.sleepAndDouble.attempts = s.attempts := rfl
@[simp] theorem sleepAndDouble_res (s : RetryState) : s.sleepAndDouble.res = s.res := rfl
@[simp] theorem countRetry_retryCount (s : RetryState) :
    s.countRetry.retryCount = s.retryCount + 1 := rfl
@[simp] theorem countRetry_attempts (s : RetryState) : s.countRetry.attempts = s.attempts := rfl
@[simp] theorem countRetry_res (s : RetryState) : s.countRetry.res = s.res := rfl

end RetryState

/-- How one pass of the loop body ends. -/
inductive Pass
  /-- `continue`: back to the loop guard. -/
  | again (s : RetryState)
  /-- `return res` or `break`. -/
  | leave (s : RetryState)

/-- One pass of the `while` body: perform, then classify the outcome. A `CURLE_OK` whose status
is neither 2xx nor at least 500 falls through the network-error test and breaks. -/
def retryBody (transport : Nat → Outcome) (maxRetries : Int) (s : RetryState) : Pass :=
  let o := transport s.attempts
  let s := { s with res := some o.code, attempts := s.attempts + 1 }
  if o.code = CURLcode.ok then
    if 200 ≤ o.responseCode ∧ o.responseCode < 300 then .leave s
    else if 500 ≤ o.responseCode then
      .again (if s.countRetry.retryCount < maxRetries then s.countRetry.sleepAndDouble
        else s.countRetry)
    else .leave s
  else if o.code = CURLcode.couldntConnect ∨ o.code = CURLcode.operationTimedout then
    if s.countRetry.retryCount < maxRetries then .again s.countRetry.sleepAndDouble
    else .leave s.countRetry
  else .leave s

/-- `while (retry_count < max_retries) { ... }`, on `fuel` passes. -/
def retryLoop (transport : Nat → Outcome) (maxRetries : Int) : Nat → RetryState → RetryState
  | 0, s => s
  | fuel + 1, s =>
    if s.retryCount < maxRetries then
      match retryBody transport maxRetries s with
      | .again s' => retryLoop transport maxRetries fuel s'
      | .leave s' => s'
    else s

/-- `validation_retry_with_backoff(curl, max_retries)`: the final locals; `res` is what it
returns. -/
def validationRetryWithBackoff (transport : Nat → Outcome) (maxRetries : Int) : RetryState :=
  retryLoop transport maxRetries maxRetries.toNat RetryState.initial

/-- The outcomes the loop goes round again on: a `CURLE_OK` with status at least 500, or
`CURLE_COULDNT_CONNECT`, or `CURLE_OPERATION_TIMEDOUT`. -/
def Retryable (o : Outcome) : Prop :=
  (o.code = CURLcode.ok ∧ 500 ≤ o.responseCode) ∨
    o.code = CURLcode.couldntConnect ∨ o.code = CURLcode.operationTimedout

instance (o : Outcome) : Decidable (Retryable o) := by unfold Retryable; infer_instance

/-! ### One pass -/

section Body

variable {transport : Nat → Outcome} {maxRetries : Int} {s s' : RetryState}

/-- What a pass that goes round again did: it performed once, assigned `res`, counted one retry
on a retryable outcome, and the count is still below the bound or the pass was a 5xx. -/
theorem retryBody_again (h : retryBody transport maxRetries s = .again s') :
    s'.attempts = s.attempts + 1 ∧ s'.retryCount = s.retryCount + 1 ∧
      s'.res = some (transport s.attempts).code ∧ Retryable (transport s.attempts) ∧
      (s'.retryCount < maxRetries ∨ (transport s.attempts).code = CURLcode.ok) := by
  unfold retryBody at h
  simp only [Retryable] at *
  split_ifs at h with hok h2 h5 hnet hlt <;> cases h <;>
    simp_all [RetryState.countRetry, RetryState.sleepAndDouble]

/-- What a pass that leaves did: it performed once and assigned `res`; it left on a success,
on an outcome it does not retry, or on the last retry. -/
theorem retryBody_leave (h : retryBody transport maxRetries s = .leave s') :
    s'.attempts = s.attempts + 1 ∧ s'.res = some (transport s.attempts).code ∧
      (¬Retryable (transport s.attempts) ∨ maxRetries ≤ s.retryCount + 1) := by
  unfold retryBody at h
  simp only [Retryable] at *
  split_ifs at h with hok h2 h5 hnet hlt <;> cases h <;>
    simp_all [RetryState.countRetry, Int.not_lt]
  omega

end Body

/-! ### The fuel never binds -/

/-- One more pass of fuel than the distance to the bound changes nothing. -/
theorem retryLoop_succ_fuel (transport : Nat → Outcome) (maxRetries : Int) :
    ∀ (fuel : Nat) (s : RetryState), (maxRetries - s.retryCount).toNat ≤ fuel →
      retryLoop transport maxRetries (fuel + 1) s = retryLoop transport maxRetries fuel s
  | 0, s, h => by simp [retryLoop, show ¬s.retryCount < maxRetries by omega]
  | fuel + 1, s, h => by
    rw [retryLoop, retryLoop]
    split
    · split
      · rename_i s' hs
        exact retryLoop_succ_fuel transport maxRetries fuel s'
          (by have := (retryBody_again hs).2.1; omega)
      · rfl
    · rfl

/-- The loop's induction principle: a property of guard states that every pass going round again
keeps holds of the final state when the guard stops the loop, or of the guard state the last pass
left from. -/
theorem retryLoop_induction {transport : Nat → Outcome} {maxRetries : Int}
    (P : RetryState → Prop)
    (hagain : ∀ s s', P s → s.retryCount < maxRetries →
      retryBody transport maxRetries s = .again s' → P s') :
    ∀ (fuel : Nat) (s : RetryState), P s → (maxRetries - s.retryCount).toNat ≤ fuel →
      (P (retryLoop transport maxRetries fuel s) ∧
          maxRetries ≤ (retryLoop transport maxRetries fuel s).retryCount) ∨
        ∃ s₀, P s₀ ∧ s₀.retryCount < maxRetries ∧
          retryBody transport maxRetries s₀ = .leave (retryLoop transport maxRetries fuel s)
  | 0, s, hs, hfuel => .inl ⟨hs, by simp only [retryLoop]; omega⟩
  | fuel + 1, s, hs, hfuel => by
    rw [retryLoop]
    split
    · rename_i hlt
      split
      · rename_i s' hbody
        exact retryLoop_induction P hagain fuel s' (hagain s s' hs hlt hbody)
          (by have := (retryBody_again hbody).2.1; omega)
      · rename_i s' hbody
        exact .inr ⟨s, hs, hlt, hbody⟩
    · exact .inl ⟨hs, by omega⟩

/-! ### How many attempts

At the guard, every attempt made so far was retried and counted, and `res` holds the last
one's code. From there the loop stops on the bound, or one pass after an outcome it does not
retry. -/

/-- The loop's state at its guard. -/
structure RetryState.Retried (transport : Nat → Outcome) (s : RetryState) : Prop where
  count : s.retryCount = s.attempts
  res : s.res = if s.attempts = 0 then none else some (transport (s.attempts - 1)).code
  retried : ∀ i < s.attempts, Retryable (transport i)

theorem RetryState.retried_initial (transport : Nat → Outcome) :
    RetryState.initial.Retried transport := ⟨rfl, rfl, fun _ h => absurd h (Nat.not_lt_zero _)⟩

/-- What the loop returns: at most `max_retries` attempts, all retried but the last, the last
not retried unless the bound was reached, and `res` the last attempt's code. -/
def RetryResult (transport : Nat → Outcome) (maxRetries : Int) (r : RetryState) : Prop :=
  r.attempts ≤ maxRetries.toNat ∧
    (∀ i, i + 1 < r.attempts → Retryable (transport i)) ∧
    (r.attempts < maxRetries.toNat → 0 < r.attempts ∧ ¬Retryable (transport (r.attempts - 1))) ∧
    r.res = if r.attempts = 0 then none else some (transport (r.attempts - 1)).code

section Loop

variable {transport : Nat → Outcome} {maxRetries : Int}

theorem retryResult_of_bound {s : RetryState} (hs : s.Retried transport)
    (hle : s.attempts ≤ maxRetries.toNat) (hstop : maxRetries ≤ s.retryCount) :
    RetryResult transport maxRetries s := by
  have hc := hs.count
  exact ⟨hle, fun i hi => hs.retried i (by omega), fun h => absurd h (by omega), hs.res⟩

theorem retried_of_again {s s' : RetryState} (hs : s.Retried transport)
    (h : retryBody transport maxRetries s = .again s') : s'.Retried transport := by
  obtain ⟨ha, hc, hr, hretry, -⟩ := retryBody_again h
  refine ⟨by rw [hc, ha, hs.count]; push_cast; rfl, by simp [ha, hr], fun i hi => ?_⟩
  rcases Nat.lt_succ_iff_lt_or_eq.mp (ha ▸ hi) with hi | rfl
  · exact hs.retried i hi
  · exact hretry

theorem retryLoop_result (fuel : Nat) (s : RetryState) (hs : s.Retried transport)
    (hle : s.attempts ≤ maxRetries.toNat) (hfuel : (maxRetries - s.retryCount).toNat ≤ fuel) :
    RetryResult transport maxRetries (retryLoop transport maxRetries fuel s) := by
  have hagain : ∀ s s', s.Retried transport ∧ s.attempts ≤ maxRetries.toNat →
      s.retryCount < maxRetries → retryBody transport maxRetries s = .again s' →
      s'.Retried transport ∧ s'.attempts ≤ maxRetries.toNat := fun s s' ⟨hs, _⟩ hlt h => by
    have := (retryBody_again h).1
    have := hs.count
    exact ⟨retried_of_again hs h, by omega⟩
  rcases retryLoop_induction _ hagain fuel s ⟨hs, hle⟩ hfuel with
    ⟨⟨hr, hle'⟩, hstop⟩ | ⟨s₀, ⟨hs₀, hle₀⟩, hlt, hbody⟩
  · exact retryResult_of_bound hr hle' hstop
  · have hc := hs₀.count
    obtain ⟨ha, hres, hstop⟩ := retryBody_leave hbody
    refine ⟨by omega, fun i hi => hs₀.retried i (by omega), fun h => ⟨by omega, ?_⟩,
      by simp [ha, hres]⟩
    rw [ha]
    exact hstop.resolve_right (by omega)

end Loop

/-- The code `validation_retry_with_backoff` returns: its last attempt's, unassigned when it made
none. -/
theorem res_validationRetryWithBackoff (transport : Nat → Outcome) (maxRetries : Int) :
    (validationRetryWithBackoff transport maxRetries).res =
      if (validationRetryWithBackoff transport maxRetries).attempts = 0 then none
      else some (transport ((validationRetryWithBackoff transport maxRetries).attempts - 1)).code :=
  (retryLoop_result _ _ (RetryState.retried_initial transport) (Nat.zero_le _)
    (by simp [RetryState.initial])).2.2.2

/-- With `max_retries ≥ 1` the engine makes at least one attempt, so `res` is assigned. -/
theorem attempts_pos_of_one_le (transport : Nat → Outcome) {maxRetries : Int}
    (h : 1 ≤ maxRetries) : 0 < (validationRetryWithBackoff transport maxRetries).attempts := by
  have hr : RetryResult transport maxRetries (validationRetryWithBackoff transport maxRetries) :=
    retryLoop_result _ _ (RetryState.retried_initial transport) (Nat.zero_le _)
      (by simp [RetryState.initial])
  by_contra h0
  exact h0 (hr.2.2.1 (by omega)).1

/-- **Attempt count, as the code has it.** For every `max_retries` and every transport,
`validation_retry_with_backoff` makes `min (max max_retries 0) k` attempts, `k` the index from 1
of the first outcome it does not retry, and returns the last attempt's code; with
`max_retries ≤ 0` it makes none and `res` is returned unassigned. -/
theorem validationRetryWithBackoff_result (transport : Nat → Outcome) (maxRetries : Int) :
    RetryResult transport maxRetries (validationRetryWithBackoff transport maxRetries) :=
  retryLoop_result _ _ (RetryState.retried_initial transport) (Nat.zero_le _)
    (by simp [RetryState.initial])

/-- Against a transport that always answers 503, `max_retries = 3` gives three attempts, not the
four of one initial attempt and three retries; `max_retries = 0` gives none, and `res` is returned
unassigned. -/
theorem retry_always_503_attempts :
    (validationRetryWithBackoff (fun _ => ⟨CURLcode.ok, 503⟩) 3).attempts = 3 ∧
      (validationRetryWithBackoff (fun _ => ⟨CURLcode.ok, 503⟩) 0).res = none := by
  decide

/-! ### The backoff schedule

Before its `k`-th sleep (from 0) the loop holds `backoff_ms = 1000 * 2^k` wrapped to `int`, so
that sleep is passed `backoffDelay k`. That is `2^k` seconds while `1000 * 2^k` fits in `int`, up
to `k = 21`; the 22nd doubling computes `1000 * 2^22`, which does not, and from there `sleep` is
passed the wrapped value. -/

/-- The argument of the `k`-th `sleep`, from 0. -/
def backoffDelay (k : Nat) : Int := (wrapInt (1000 * 2 ^ k)).tdiv 1000

theorem two_pow_le_two_pow {j k : Nat} (h : j ≤ k) : (2 : Int) ^ j ≤ 2 ^ k := by
  exact_mod_cast Nat.pow_le_pow_right (by decide) h

theorem fitsInt_backoff {k : Nat} (hk : k ≤ 21) : FitsInt (1000 * 2 ^ k) := by
  have h1 := two_pow_le_two_pow hk
  have h0 := two_pow_le_two_pow (Nat.zero_le k)
  generalize (2 : Int) ^ k = t at *
  constructor <;> omega

/-- The `k`-th sleep lasts `2^k` seconds exactly up to `k = 21`; after, the wrapped `backoff_ms`
lies in `[-2^31, 2^31)`, and its thousandth is smaller than `2^22`. -/
theorem backoffDelay_eq_pow_iff (k : Nat) : backoffDelay k = 2 ^ k ↔ k ≤ 21 := by
  refine ⟨fun h => Nat.not_lt.mp fun hk => ?_, fun hk => ?_⟩
  · have h1 := two_pow_le_two_pow hk
    have hlo := Int.le_bmod (x := 1000 * 2 ^ k) (m := 2 ^ 32) (by decide)
    have hhi := Int.bmod_lt (x := 1000 * 2 ^ k) (m := 2 ^ 32) (by decide)
    have habs : (backoffDelay k).natAbs = (wrapInt (1000 * 2 ^ k)).natAbs / 1000 :=
      Int.natAbs_tdiv _ _
    rw [h] at habs
    unfold wrapInt at habs
    generalize (2 : Int) ^ k = t at *
    generalize (1000 * t).bmod (2 ^ 32) = b at *
    omega
  · rw [backoffDelay, wrapInt_of_fitsInt (fitsInt_backoff hk)]
    exact Int.mul_tdiv_cancel_left _ (by decide)

/-- The doubling after the `n`-th sleep overflows for the first time at `n = 21`. -/
theorem overflowed_succ (n : Nat) :
    (decide (22 ≤ n) || !decide (FitsInt (wrapInt (1000 * 2 ^ n) * 2))) = decide (22 ≤ n + 1) := by
  rcases Nat.lt_or_ge n 21 with hn | hn
  · rw [wrapInt_of_fitsInt (fitsInt_backoff (by omega)), Int.mul_assoc, ← Int.pow_succ,
      decide_eq_true (fitsInt_backoff (by omega))]
    simp only [Bool.not_true, Bool.or_false, decide_eq_decide]
    omega
  · rcases Nat.eq_or_lt_of_le hn with rfl | hn
    · decide
    · simp [show 22 ≤ n by omega, show 22 ≤ n + 1 by omega]

/-- The backoff locals after `n` sleeps: what each `sleep` was passed, `backoff_ms`, and whether
a doubling overflowed. -/
def RetryState.Schedule (n : Nat) (s : RetryState) : Prop :=
  s.sleeps = (List.range n).map backoffDelay ∧ s.backoffMs = wrapInt (1000 * 2 ^ n) ∧
    s.overflowed = decide (22 ≤ n)

theorem RetryState.Schedule.sleepAndDouble {n : Nat} {s : RetryState} (hs : s.Schedule n) :
    s.sleepAndDouble.Schedule (n + 1) := by
  obtain ⟨h1, h2, h3⟩ := hs
  refine ⟨?_, ?_, ?_⟩
  · simp only [RetryState.sleepAndDouble, h1, h2, List.range_succ, List.map_append]
    rfl
  · simp only [RetryState.sleepAndDouble, h2, wrapInt_mul_wrapInt, Int.mul_assoc, Int.pow_succ]
  · simp only [RetryState.sleepAndDouble, h2, h3, overflowed_succ]

section Schedule

variable {transport : Nat → Outcome} {maxRetries : Int} {s s' : RetryState} {n : Nat}

/-- A pass that goes round again sleeps once, unless it counted the last retry. -/
theorem retryBody_again_schedule (h : retryBody transport maxRetries s = .again s')
    (hs : s.Schedule n) : s'.Schedule (if s'.retryCount < maxRetries then n + 1 else n) := by
  unfold retryBody at h
  dsimp only at h
  split_ifs at h <;> cases h <;> split_ifs <;>
    first | exact hs | exact hs.sleepAndDouble | simp_all [RetryState.countRetry]

/-- A pass that leaves does not sleep. -/
theorem retryBody_leave_schedule (h : retryBody transport maxRetries s = .leave s')
    (hs : s.Schedule n) : s'.Schedule n := by
  unfold retryBody at h
  dsimp only at h
  split_ifs at h <;> cases h <;> exact hs

/-- At the guard, one sleep followed every attempt but the last attempt at the bound. -/
def BackoffAtGuard (maxRetries : Int) (s : RetryState) : Prop :=
  (s.Schedule s.attempts ∧ (s.attempts = 0 ∨ s.retryCount < maxRetries)) ∨
    (s.Schedule (s.attempts - 1) ∧ 0 < s.attempts ∧ maxRetries ≤ s.retryCount)

theorem BackoffAtGuard.schedule_of_lt (hs : BackoffAtGuard maxRetries s)
    (hlt : s.retryCount < maxRetries) : s.Schedule s.attempts := by
  rcases hs with ⟨hs, -⟩ | ⟨-, -, hge⟩
  · exact hs
  · omega

theorem BackoffAtGuard.again (hs : BackoffAtGuard maxRetries s) (hlt : s.retryCount < maxRetries)
    (h : retryBody transport maxRetries s = .again s') : BackoffAtGuard maxRetries s' := by
  have h' := retryBody_again_schedule h (hs.schedule_of_lt hlt)
  unfold BackoffAtGuard
  rw [(retryBody_again h).1]
  split_ifs at h' with hlt'
  · exact .inl ⟨h', .inr hlt'⟩
  · exact .inr ⟨h', by omega, by omega⟩

/-- The loop sleeps once between consecutive attempts and never after the last. -/
theorem retryLoop_schedule (fuel : Nat) (s : RetryState) (hs : BackoffAtGuard maxRetries s)
    (hfuel : (maxRetries - s.retryCount).toNat ≤ fuel) :
    (retryLoop transport maxRetries fuel s).Schedule
      ((retryLoop transport maxRetries fuel s).attempts - 1) := by
  rcases retryLoop_induction _ (fun _ _ hs hlt h => hs.again hlt h) fuel s hs hfuel with
    ⟨⟨hr, h0 | hlt⟩ | ⟨hr, -⟩, hstop⟩ | ⟨s₀, hs₀, hlt, hbody⟩
  · rwa [h0] at hr ⊢
  · omega
  · exact hr
  · rw [(retryBody_leave hbody).1]
    exact retryBody_leave_schedule hbody (hs₀.schedule_of_lt hlt)

end Schedule

/-- **Backoff schedule.** For every `max_retries` and every transport,
`validation_retry_with_backoff` sleeps once before every attempt after the first, the sleep before
attempt `n` being passed `backoffDelay (n - 2)`, which is `2^(n-2)` seconds exactly when `n ≤ 23`;
and its `backoff_ms *= 2` overflows `int` exactly when it makes at least 23 attempts. -/
theorem backoff_schedule_on_every_run (transport : Nat → Outcome) (maxRetries : Int) :
    (validationRetryWithBackoff transport maxRetries).sleeps =
        (List.range ((validationRetryWithBackoff transport maxRetries).attempts - 1)).map
          backoffDelay ∧
      (∀ k, backoffDelay k = 2 ^ k ↔ k ≤ 21) ∧
      ((validationRetryWithBackoff transport maxRetries).overflowed = true ↔
        23 ≤ (validationRetryWithBackoff transport maxRetries).attempts) := by
  have h : (validationRetryWithBackoff transport maxRetries).Schedule
      ((validationRetryWithBackoff transport maxRetries).attempts - 1) :=
    retryLoop_schedule _ _ (.inl ⟨⟨rfl, rfl, rfl⟩, .inl rfl⟩) (by simp [RetryState.initial])
  obtain ⟨hsleeps, -, hover⟩ := h
  refine ⟨hsleeps, backoffDelay_eq_pow_iff, ?_⟩
  rw [hover, decide_eq_true_iff]
  omega

set_option maxRecDepth 4000 in
/-- With `max_retries = 24` against a transport that always answers 503, the 22nd doubling
overflows `int`, and the sleep before the 24th attempt is passed `-100663` instead of `2^22`. -/
theorem backoff_overflows_before_attempt_24 :
    (validationRetryWithBackoff (fun _ => ⟨CURLcode.ok, 503⟩) 24).attempts = 24 ∧
      (validationRetryWithBackoff (fun _ => ⟨CURLcode.ok, 503⟩) 24).overflowed = true ∧
      (validationRetryWithBackoff (fun _ => ⟨CURLcode.ok, 503⟩) 24).sleeps.getLast? =
        some (-100663) := by
  decide

end CurlValidation
