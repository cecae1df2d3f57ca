import CurlValidation.Basic

/-!
# The metrics recorder

`metrics_buffer` is `malloc`ed with `MAX_METRICS` slots on the first record; `record_metrics`
writes at `metrics_count` while it is below the bound and drops the metric after, and
`validation_get_metrics` copies the first `metrics_count` slots. Allocation is taken to succeed, so
`validation_get_metrics` always returns 0.
-/

namespace CurlValidation

/-- `validation_metrics_t`. `request_time` is the `difftime` of two `time(NULL)` readings, a whole
number of seconds. -/
structure ValidationMetrics where
  requestTime : Int
  retryCount : Int
  responseSize : Nat
  timestamp : Int
deriving DecidableEq, Repr

/-- `MAX_METRICS`. -/
def maxMetrics : Int := 1000

/-- `metrics_buffer` and `metrics_count`. -/
structure MetricsStore where
  metricsBuffer : Option (CArray ValidationMetrics)
  metricsCount : Int

namespace MetricsStore

def initial : MetricsStore := ⟨none, 0⟩

/-- `metrics_buffer[i]`. -/
def slot (s : MetricsStore) (i : Int) : Option ValidationMetrics := s.metricsBuffer.bind (·.read i)

end MetricsStore

/-- `record_metrics(metrics)`; `none` when the write `metrics_buffer[metrics_count++]` is out of
bounds. -/
def recordMetrics (enableMetrics : Bool) (metrics : ValidationMetrics) (s : MetricsStore) :
    Option MetricsStore :=
  if enableMetrics = false then some s
  else
    let buffer := s.metricsBuffer.getD (CArray.alloc maxMetrics.toNat)
    if s.metricsCount < maxMetrics then
      (buffer.write s.metricsCount metrics).map fun b => ⟨some b, s.metricsCount + 1⟩
    else some { s with metricsBuffer := some buffer }

/-- `validation_get_metrics(&metrics, &count)`: the copy of the first `metrics_count` slots and the
count; `NULL` (no slots) and 0 when metrics are off. -/
def validationGetMetrics (enableMetrics : Bool) (s : MetricsStore) :
    List (Option ValidationMetrics) × Int :=
  if enableMetrics = false then ([], 0)
  else ((List.range s.metricsCount.toNat).map fun i : Nat => s.slot i, s.metricsCount)

/-- The metrics half of `validation_cleanup`. -/
def metricsCleanup (_ : MetricsStore) : MetricsStore := ⟨none, 0⟩

/-- The bounds of `metrics_count`, and the size of an allocated buffer. -/
structure MetricsStore.Bounded (s : MetricsStore) : Prop where
  count_nonneg : 0 ≤ s.metricsCount
  count_le : s.metricsCount ≤ maxMetrics
  length : ∀ b, s.metricsBuffer = some b → b.length = 1000

/-- What an enabled `record_metrics` does to a buffer of `MAX_METRICS` slots: it keeps the buffer
allocated and, below the bound, writes slot `metrics_count` and counts it. -/
theorem recordMetrics_spec {s : MetricsStore}
    (hlen : (s.metricsBuffer.getD (CArray.alloc maxMetrics.toNat)).length = 1000)
    (hc : 0 ≤ s.metricsCount) (metrics : ValidationMetrics) :
    ∃ b, recordMetrics true metrics s = some ⟨some b,
        if s.metricsCount < maxMetrics then s.metricsCount + 1 else s.metricsCount⟩ ∧
      b.length = 1000 ∧
      ∀ i, b.read i = if s.metricsCount < maxMetrics ∧ i = s.metricsCount then some metrics
        else (s.metricsBuffer.getD (CArray.alloc maxMetrics.toNat)).read i := by
  unfold recordMetrics
  simp only [Bool.true_eq_false, if_false]
  by_cases hlt : s.metricsCount < maxMetrics
  · obtain ⟨b, hb⟩ : ∃ b, (s.metricsBuffer.getD (CArray.alloc maxMetrics.toNat)).write
        s.metricsCount metrics = some b :=
      ⟨_, CArray.write_eq_some ⟨hc, by rw [hlen]; exact hlt⟩⟩
    refine ⟨b, by simp [hlt, hb], CArray.length_of_write hb ▸ hlen, fun i => ?_⟩
    rw [CArray.read_write hb]
    simp [hlt]
  · exact ⟨_, by simp [hlt], hlen, fun i => by simp [hlt]⟩

/-- Within the bounds, `record_metrics` writes inside the buffer and keeps the bounds. -/
theorem MetricsStore.Bounded.recordMetrics {s : MetricsStore} (hs : s.Bounded)
    (enableMetrics : Bool) (metrics : ValidationMetrics) :
    ∃ s', CurlValidation.recordMetrics enableMetrics metrics s = some s' ∧ s'.Bounded := by
  cases enableMetrics with
  | false => exact ⟨s, rfl, hs⟩
  | true =>
    have hlen : (s.metricsBuffer.getD (CArray.alloc maxMetrics.toNat)).length = 1000 := by
      cases hb : s.metricsBuffer with
      | none => rfl
      | some b => exact hs.length b hb
    have hc := hs.count_nonneg
    have hle := hs.count_le
    obtain ⟨b, h, hb, -⟩ := recordMetrics_spec hlen hc metrics
    refine ⟨_, h, ⟨?_, ?_, by rintro b' ⟨⟩; exact hb⟩⟩ <;>
      dsimp only <;> split_ifs <;> omega

/-! ### The recorder along a run

The events that reach the recorder: a `record_metrics` (one for each `curl_validation_enhanced` that
performs a transfer), a change of `enable_metrics`, a `validation_get_metrics`, and
`validation_cleanup`. The ghost `log` is what the spec says the recorder keeps: the metrics recorded
while enabled since the last cleanup, oldest first. A cleanup here is the metrics half of
`validation_cleanup` alone: the whole call ends by freeing the string-literal `base_url`, so no run of
the program goes on past it. These runs include the program's, and what holds on all of them holds
on the program's runs. -/

inductive MetricsEvent
  | recordMetrics (metrics : ValidationMetrics)
  | setEnableMetrics (enable : Bool)
  | validationGetMetrics
  | validationCleanup
deriving DecidableEq, Repr

structure MetricsWorld where
  enableMetrics : Bool
  store : MetricsStore
  log : List ValidationMetrics

namespace MetricsWorld

def initial : MetricsWorld := ⟨true, MetricsStore.initial, []⟩

def step (w : MetricsWorld) : MetricsEvent → Option MetricsWorld
  | .recordMetrics metrics => (recordMetrics w.enableMetrics metrics w.store).map fun store =>
      { w with store, log := if w.enableMetrics then w.log ++ [metrics] else w.log }
  | .setEnableMetrics enable => some { w with enableMetrics := enable }
  | .validationGetMetrics => some w
  | .validationCleanup => some { w with store := metricsCleanup w.store, log := [] }

def run : MetricsWorld → List MetricsEvent → Option MetricsWorld
  | w, [] => some w
  | w, e :: es => (w.step e).bind (run · es)

end MetricsWorld

end CurlValidation
