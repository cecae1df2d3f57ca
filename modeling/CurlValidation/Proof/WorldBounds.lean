import CurlValidation.Proof.PoolRuns
import CurlValidation.Enhanced

/-!
# The bounds of the shared state along every run

The pool, the cache and the metrics buffer are shared by every call of the API. Along every run of
`validation_set_config`, `curl_validation_enhanced`, `validation_cleanup` and
`validation_get_metrics` the pool keeps its bounds, the cache holds at most 100 entries and
`metrics_count` stays in `[0, MAX_METRICS]`, so no write of `return_connection_to_pool` or
`record_metrics` leaves its array. The bounds are those each part keeps on its own; here each phase
of a call is shown to keep all of them. Within them, a request on a live connection with at least one
attempt allowed always runs to its end.
-/

namespace CurlValidation

theorem MetricsStore.bounded_initial : MetricsStore.initial.Bounded :=
  ⟨le_rfl, by decide, fun _ h => by cases h⟩

namespace World

/-- The bounds of the shared state. -/
structure Bounded (w : World) : Prop where
  pool : w.connectionPool.Bounded
  cache : w.cacheHead.length ≤ 100
  metrics : w.metrics.Bounded

theorem bounded_initial : initial.Bounded :=
  ⟨ConnectionPool.bounded_initial, by decide, MetricsStore.bounded_initial⟩

section Phases

variable {w w' : World}

theorem Bounded.cachedResponse (hw : w.Bounded) (now : Int) (key : Bytes) :
    (w.cachedResponse now key).2.Bounded :=
  ⟨hw.pool, (getCachedResponse_length_le _ now).trans hw.cache, hw.metrics⟩

theorem Bounded.acquire (hw : w.Bounded) {easyInit : Bool} {c : Option Handle}
    (ha : w.acquire easyInit = some (c, w')) : w'.Bounded := by
  rcases acquire_eq_some ha with rfl | ⟨-, rfl⟩ <;>
    exact ⟨(bounded_getConnectionFromPool hw.pool).1, hw.cache, hw.metrics⟩

theorem Bounded.release (hw : w.Bounded) {c : Handle} (hr : w.release c = some w') :
    w'.Bounded := by
  rcases release_eq_some hr with ⟨pool, hp, rfl⟩ | rfl
  · exact ⟨(bounded_returnConnectionToPool hw.pool hp).1, hw.cache, hw.metrics⟩
  · exact ⟨hw.pool, hw.cache, hw.metrics⟩

theorem Bounded.returnConnectionToPool_ne_none (hw : w.Bounded) (pooling : Bool) (curl : Handle) :
    returnConnectionToPool pooling curl w.connectionPool ≠ none :=
  CurlValidation.returnConnectionToPool_ne_none hw.pool.size_nonneg fun a ha => by
    rw [hw.pool.length a ha, hw.pool.max]
    rfl

/-- Within the bounds, a request on a live connection, with a `base_url` and `max_retries ≥ 1`, is
defined: the set-up, the metric, `res` and the return of the connection all are. -/
theorem Bounded.performRequest_ne_none (hw : w.Bounded) {c : Handle} {endpoint payload key : Bytes}
    {error : Bool} {io : Transfer} (hlive : w.easy c ≠ none) (hbase : w.globalConfig.baseUrl ≠ none)
    (hretries : 1 ≤ w.globalConfig.maxRetries) :
    CurlValidation.performRequest w c endpoint payload key error io ≠ none := by
  obtain ⟨handle, hh⟩ := Option.ne_none_iff_exists'.mp hlive
  obtain ⟨baseUrl, hb⟩ := Option.ne_none_iff_exists'.mp hbase
  obtain ⟨metrics, hm, -⟩ :=
    hw.metrics.recordMetrics w.globalConfig.enableMetrics ⟨io.finishAt - io.startAt, 0, 0, 0⟩
  have hres := res_validationRetryWithBackoff io.transport w.globalConfig.maxRetries
  rw [if_neg (attempts_pos_of_one_le io.transport hretries).ne'] at hres
  simp only [CurlValidation.performRequest, hh, setupRequest, hb, hm, hres, bind,
    Option.bind_eq_bind, Option.some_bind, Option.map_some', ne_eq, Option.bind_eq_none,
    reduceCtorEq, imp_false, not_forall, not_not]
  exact Option.ne_none_iff_exists'.mp
    (release_ne_none (hw.returnConnectionToPool_ne_none _ c) (by simp))

/-- A request on a held connection records one metric, stores at most one entry, and returns the
connection into the pool or destroys it. -/
theorem Bounded.performRequest (hw : w.Bounded) {c : Handle} {endpoint payload key : Bytes}
    {error : Bool} {io : Transfer} {res : CURLcode} {report : Option ValidationError}
    (h : CurlValidation.performRequest w c endpoint payload key error io = some (w', res, report)) :
    w'.Bounded := by
  obtain ⟨-, -, -, -, -, -, -, hcache, -, -, -, hm, hpool⟩ := performRequest_result h
  refine ⟨?_, ?_, ?_⟩
  · rcases hpool with hpool | hpool
    · exact hpool ▸ hw.pool
    · exact (bounded_returnConnectionToPool hw.pool hpool).1
  · rw [hcache, (cacheOrReport_spec ..).1]
    split_ifs
    · exact cacheResponse_length_le _ _ _ hw.cache
    · exact hw.cache
  · obtain ⟨s, hs, hb⟩ := hw.metrics.recordMetrics w.globalConfig.enableMetrics
      ⟨io.finishAt - io.startAt, 0, 0, 0⟩
    rw [hm] at hs
    cases hs
    exact hb

theorem Bounded.curlValidationEnhanced (hw : w.Bounded) {curl error : Bool}
    {endpoint payload : Option Bytes} {io : Transfer} {out : CURLcode × Option ValidationError}
    (h : CurlValidation.curlValidationEnhanced w curl endpoint payload error io = some (w', out)) :
    w'.Bounded := by
  rcases curlValidationEnhanced_cases h with h | ⟨e, p, rfl, rfl, rfl, h⟩
  · cases h; exact hw
  have hw₀ := hw.cachedResponse io.lookupAt (cacheKey e p)
  rcases curlValidationEnhanced_of_valid rfl h with
    ⟨-, hr⟩ | ⟨-, c, w₁, ha, ⟨rfl, hr⟩ | ⟨c, rfl, hp⟩⟩
  · cases hr; exact hw₀
  · cases hr; exact hw₀.acquire ha
  · exact (hw₀.acquire ha).performRequest hp

theorem Bounded.step (hw : w.Bounded) {e : Event} (h : w.step e = some w') : w'.Bounded := by
  cases e with
  | validationSetConfig config =>
    obtain ⟨g, -, rfl⟩ := step_validationSetConfig h
    exact ⟨hw.pool, hw.cache, hw.metrics⟩
  | curlValidationEnhanced curl endpoint payload error io =>
    obtain ⟨out, h⟩ := step_curlValidationEnhanced h
    exact hw.curlValidationEnhanced h
  | validationCleanup => cases (step_validationCleanup w).symm.trans h
  | validationGetMetrics => cases h; exact hw

end Phases

theorem bounded_run : ∀ (events : List Event) {w w' : World},
    w.Bounded → w.run events = some w' → w'.Bounded
  | [], w, w', hw, h => by cases h; exact hw
  | e :: es, w, w', hw, h => by
    obtain ⟨v, hv, h⟩ := Option.bind_eq_some.mp h
    exact bounded_run es (hw.step hv) h

end World

/-- **Shared-state bounds.** On every run of the API from the initial state, the connection pool
keeps its bounds (`0 ≤ pool_size ≤ max_connections = 10`, `0 ≤ current_index < 10`, an allocated
array of ten slots with `[0, pool_size)` filled), the cache holds at most 100 entries, and
`0 ≤ metrics_count ≤ MAX_METRICS`; the next `return_connection_to_pool` and the next
`record_metrics` write inside their arrays. -/
theorem shared_state_bounded_on_every_run (events : List Event) (w : World)
    (hw : World.initial.run events = some w) :
    w.connectionPool.Bounded ∧ w.cacheHead.length ≤ 100 ∧
      0 ≤ w.metrics.metricsCount ∧ w.metrics.metricsCount ≤ maxMetrics ∧
      (∀ curl, returnConnectionToPool w.globalConfig.enableConnectionPooling curl w.connectionPool ≠
        none) ∧
      ∀ enableMetrics metrics, recordMetrics enableMetrics metrics w.metrics ≠ none := by
  have hb := World.bounded_run events World.bounded_initial hw
  refine ⟨hb.pool, hb.cache, hb.metrics.count_nonneg, hb.metrics.count_le,
    hb.returnConnectionToPool_ne_none _, fun enableMetrics metrics hnone => ?_⟩
  obtain ⟨s, hs, -⟩ := hb.metrics.recordMetrics enableMetrics metrics
  rw [hnone] at hs
  cases hs

theorem shared_state_bounded_after_one_request :
    ∃ w, World.initial.run [.curlValidationEnhanced true (some (ascii "validations/accounts"))
        (some (ascii "{}")) true ⟨true, fun _ => ⟨.ok, 200⟩, 0, 0, 0, 0⟩] = some w ∧
      w.connectionPool.Bounded ∧ w.cacheHead.length ≤ 100 ∧
      0 ≤ w.metrics.metricsCount ∧ w.metrics.metricsCount ≤ maxMetrics ∧
      (∀ curl, returnConnectionToPool w.globalConfig.enableConnectionPooling curl w.connectionPool ≠
        none) ∧
      ∀ enableMetrics metrics, recordMetrics enableMetrics metrics w.metrics ≠ none :=
  ⟨_, rfl, shared_state_bounded_on_every_run [.curlValidationEnhanced true
    (some (ascii "validations/accounts")) (some (ascii "{}")) true
    ⟨true, fun _ => ⟨.ok, 200⟩, 0, 0, 0, 0⟩] _ rfl⟩

end CurlValidation
