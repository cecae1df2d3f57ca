import CurlValidation.Metrics

/-!
# The metrics log is a bounded prefix

Along every run the slots `[0, metrics_count)` hold the first `metrics_count` metrics of the log and
`metrics_count = min (length of the log) MAX_METRICS`. So every write lands inside the buffer, and
`validation_get_metrics` returns the first thousand metrics recorded while enabled since the last
cleanup, in order; the later ones are dropped and overwrite nothing.
-/

namespace CurlValidation

namespace MetricsWorld

/-- The recorder's state agrees with its log. -/
structure Inv (w : MetricsWorld) : Prop where
  count : w.store.metricsCount = min (w.log.length : Int) 1000
  length : ∀ b, w.store.metricsBuffer = some b → b.length = 1000
  slots : ∀ i : Nat, i < w.log.length → i < 1000 → w.store.slot i = w.log[i]?

theorem inv_initial : initial.Inv :=
  ⟨rfl, (fun _ h => by cases h), fun _ h => absurd h (Nat.not_lt_zero _)⟩

/-- The buffer a record writes into: the existing one, or a fresh one of `MAX_METRICS` slots. -/
theorem Inv.buffer {w : MetricsWorld} (hw : w.Inv) :
    (w.store.metricsBuffer.getD (CArray.alloc maxMetrics.toNat)).length = 1000 ∧
      ∀ i : Nat, i < w.log.length → i < 1000 →
        (w.store.metricsBuffer.getD (CArray.alloc maxMetrics.toNat)).read i = w.log[i]? := by
  cases hb : w.store.metricsBuffer with
  | none =>
    refine ⟨rfl, fun i hi h1000 => absurd (hw.slots i hi h1000) ?_⟩
    simp [MetricsStore.slot, hb, List.getElem?_eq_getElem hi]
  | some b =>
    exact ⟨hw.length b hb, fun i hi h1000 => by
      simpa [MetricsStore.slot, hb] using hw.slots i hi h1000⟩

theorem inv_record {w : MetricsWorld} (hw : w.Inv) (metrics : ValidationMetrics) :
    ∃ w', w.step (.recordMetrics metrics) = some w' ∧ w'.Inv := by
  obtain ⟨hlen, hread⟩ := hw.buffer
  have hc := hw.count
  obtain ⟨en, store, log⟩ := w
  simp only at hlen hread hc
  cases en with
  | false => exact ⟨_, rfl, hw⟩
  | true =>
    obtain ⟨b, h, hb, hslot⟩ := recordMetrics_spec hlen (by omega) metrics
    have hmax : maxMetrics = 1000 := rfl
    refine ⟨_, by simp only [step, h, if_true]; rfl,
      ⟨?_, by rintro b' ⟨⟩; exact hb, fun i hi h1000 => ?_⟩⟩
    · simp only [List.length_append, List.length_singleton]
      split_ifs <;> omega
    · simp only [List.length_append, List.length_singleton] at hi
      simp only [MetricsStore.slot, Option.some_bind, hslot]
      split_ifs with hieq
      · obtain rfl : i = log.length := by omega
        simp
      · rw [hread i (by omega) h1000, List.getElem?_append_left (by omega)]

theorem inv_step {w : MetricsWorld} (hw : w.Inv) (e : MetricsEvent) :
    ∃ w', w.step e = some w' ∧ w'.Inv := by
  cases e with
  | recordMetrics metrics => exact inv_record hw metrics
  | setEnableMetrics enable => exact ⟨_, rfl, ⟨hw.1, hw.2, hw.3⟩⟩
  | validationGetMetrics => exact ⟨_, rfl, hw⟩
  | validationCleanup =>
    exact ⟨_, rfl, ⟨rfl, (fun _ h => by cases h), fun _ h => absurd h (Nat.not_lt_zero _)⟩⟩

theorem inv_run : ∀ (events : List MetricsEvent) {w : MetricsWorld}, w.Inv →
    ∃ w', w.run events = some w' ∧ w'.Inv
  | [], w, hw => ⟨w, rfl, hw⟩
  | e :: es, w, hw => by
    obtain ⟨v, hv, hv'⟩ := inv_step hw e
    obtain ⟨w', h, hw'⟩ := inv_run es hv'
    exact ⟨w', by simp [run, hv, h], hw'⟩

end MetricsWorld

theorem range_map_eq_take {α : Type} (l : List α) (n : Nat) (f : Nat → Option α)
    (hn : n ≤ l.length) (hf : ∀ i < n, f i = l[i]?) :
    (List.range n).map f = (l.take n).map some := by
  refine List.ext_getElem (by simp; omega) fun i h1 h2 => ?_
  simp only [List.length_map, List.length_range] at h1
  simp [hf i h1, List.getElem?_eq_getElem (show i < l.length by omega)]

/-- **Bounded append-only metrics log.** For every sequence of `record_metrics` calls (one for each
`curl_validation_enhanced` that performs a transfer), `validation_get_metrics` calls,
`validation_cleanup` calls and changes of `enable_metrics`: no write `metrics_buffer[metrics_count]`
is out of bounds (the run is defined), `0 ≤ metrics_count ≤ MAX_METRICS`, and while metrics are
enabled `validation_get_metrics` returns `min N 1000` and exactly the first `min N 1000` metrics
recorded while enabled since the last cleanup, in recording order. -/
theorem metrics_log_bounded_prefix (events : List MetricsEvent) :
    ∃ w, MetricsWorld.initial.run events = some w ∧
      0 ≤ w.store.metricsCount ∧ w.store.metricsCount ≤ maxMetrics ∧
      (w.enableMetrics = true → validationGetMetrics w.enableMetrics w.store =
        ((w.log.take 1000).map some, min (w.log.length : Int) 1000)) := by
  obtain ⟨w, hrun, hw⟩ := MetricsWorld.inv_run events MetricsWorld.inv_initial
  have hc := hw.count
  refine ⟨w, hrun, by omega, by unfold maxMetrics; omega, fun hen => ?_⟩
  have hn : w.store.metricsCount.toNat = min w.log.length 1000 := by omega
  have hslots := range_map_eq_take w.log (min w.log.length 1000) (fun i => w.store.slot i)
    (Nat.min_le_left _ _) fun i hi => hw.slots i (by omega) (by omega)
  have htake : w.log.take (min w.log.length 1000) = w.log.take 1000 := by
    rcases le_total w.log.length 1000 with h | h <;> simp [h, List.take_of_length_le]
  simp only [validationGetMetrics, hen, Bool.true_eq_false, if_false]
  rw [hn, hslots, htake, hc]

end CurlValidation
