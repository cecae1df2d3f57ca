import CurlValidation.Proof.CacheRefinement
import CurlValidation.Enhanced

/-!
# The cache along runs of the library

`cache_response` is reached only after a last attempt that completed with `CURLE_OK` and a 2xx
status, and it stores `"success"` under the call's cache key with expiry 300 seconds after the store.
So along every run each entry of the cache was stored by a logged transfer that succeeded, and a hit
at time `now` answers for such a transfer with the same cache key, stored less than 300 seconds
before `now`. The cache key is not the request: `snprintf` joins endpoint and payload with a `:` and
cuts the result to 255 bytes, so a hit can answer for a different endpoint and payload.

Each call of the library runs to its end before the next one starts, so a call stores its key only
after its own lookup missed it. Read as a sequence of cache uses (each call's lookup, and its store
of `"success"` after a transfer that succeeded), a run leaves on `cache_head` exactly what those
uses leave on the list model, so the list never holds two entries with one key: it is the binding
list of the LRU map the same uses build, and every lookup answers as that map does.
-/

namespace CurlValidation

/-- `entry` is what `cache_response` stored after a logged transfer that succeeded. -/
def StoredBy (transfers : List TransferRecord) (entry : CacheEntry) : Prop :=
  ∃ t ∈ transfers, t.Succeeded ∧
    entry = ⟨cacheKey t.endpoint t.payload, ascii "success", t.storeAt + cacheTtl⟩

theorem StoredBy.append {transfers : List TransferRecord} {entry : CacheEntry}
    (h : StoredBy transfers entry) (more : List TransferRecord) :
    StoredBy (transfers ++ more) entry :=
  let ⟨t, ht, hs, he⟩ := h
  ⟨t, List.mem_append_left more ht, hs, he⟩

namespace World

/-- Every entry of the cache was stored after a logged transfer that succeeded. -/
def CacheBacked (w : World) : Prop := ∀ entry ∈ w.cacheHead, StoredBy w.transfers entry

section Step

variable {w w' : World}

/-- A lookup only unlinks and relinks. -/
theorem CacheBacked.cachedResponse (hw : w.CacheBacked) (now : Int) (key : Bytes) :
    (w.cachedResponse now key).2.CacheBacked :=
  fun _ hx => hw _ (mem_getCachedResponse hx)

theorem CacheBacked.acquire (hw : w.CacheBacked) {easyInit : Bool} {c : Option Handle}
    (ha : w.acquire easyInit = some (c, w')) : w'.CacheBacked := by
  intro entry hx
  rw [(acquire_frame ha).2.1]
  exact hw entry (acquire_cacheHead ha ▸ hx)

/-- A transfer appends its record, and stores an entry only when that record succeeded. -/
theorem CacheBacked.performRequest (hw : w.CacheBacked) {c : Handle} {endpoint payload : Bytes}
    {error : Bool} {io : Transfer} {res : CURLcode} {report : Option ValidationError}
    (h : CurlValidation.performRequest w c endpoint payload (cacheKey endpoint payload) error io =
      some (w', res, report)) : w'.CacheBacked := by
  obtain ⟨-, set, -, -, -, -, ht, hcache, -, -⟩ := performRequest_result h
  intro entry hx
  rw [hcache, (cacheOrReport_spec ..).1] at hx
  rw [ht]
  split_ifs at hx with hok
  · rcases mem_cacheResponse hx with hx | rfl
    · exact (hw entry hx).append _
    · exact ⟨_, List.mem_append_right _ (List.mem_singleton_self _), hok, rfl⟩
  · exact (hw entry hx).append _

theorem CacheBacked.curlValidationEnhanced (hw : w.CacheBacked) {curl error : Bool}
    {endpoint payload : Option Bytes} {io : Transfer} {out : CURLcode × Option ValidationError}
    (h : CurlValidation.curlValidationEnhanced w curl endpoint payload error io = some (w', out)) :
    w'.CacheBacked := by
  rcases curlValidationEnhanced_cases h with h | ⟨e, p, rfl, rfl, rfl, h⟩
  · cases h; exact hw
  have hw₀ := hw.cachedResponse io.lookupAt (cacheKey e p)
  rcases curlValidationEnhanced_of_valid rfl h with
    ⟨-, hr⟩ | ⟨-, c, w₁, ha, ⟨rfl, hr⟩ | ⟨c, rfl, hp⟩⟩
  · cases hr; exact hw₀
  · cases hr; exact hw₀.acquire ha
  · exact (hw₀.acquire ha).performRequest hp

theorem CacheBacked.step (hw : w.CacheBacked) {e : Event} (h : w.step e = some w') :
    w'.CacheBacked := by
  cases e with
  | validationSetConfig config =>
    obtain ⟨g, -, rfl⟩ := step_validationSetConfig h
    exact hw
  | curlValidationEnhanced curl endpoint payload error io =>
    obtain ⟨out, h⟩ := step_curlValidationEnhanced h
    exact hw.curlValidationEnhanced h
  | validationCleanup => cases (step_validationCleanup w).symm.trans h
  | validationGetMetrics => cases h; exact hw

end Step

theorem cacheBacked_run : ∀ (events : List Event) {w w' : World},
    w.CacheBacked → w.run events = some w' → w'.CacheBacked
  | [], w, w', hw, h => by cases h; exact hw
  | e :: es, w, w', hw, h => by
    obtain ⟨v, hv, h⟩ := Option.bind_eq_some.mp h
    exact cacheBacked_run es (hw.step hv) h

end World

/-- **A hit answers for an earlier success under the same key.** On every run, if the lookup of
`curl_validation_enhanced(curl, endpoint, payload, error)` at time `now` hits, then it returns
`"success"`, and some earlier transfer, of a request whose cache key is the same as this one's,
had a last attempt that completed with `CURLE_OK` and a 2xx status, and was stored less than
`CACHE_TTL` seconds before `now`. -/
theorem cache_hit_backed_by_success (events : List Event) (w : World) (endpoint payload : Bytes)
    (now : Int) (response : Bytes) (hw : World.initial.run events = some w)
    (hhit : (w.cachedResponse now (cacheKey endpoint payload)).1 = some response) :
    response = ascii "success" ∧
      ∃ t ∈ w.transfers, t.Succeeded ∧ cacheKey t.endpoint t.payload = cacheKey endpoint payload ∧
        now < t.storeAt + cacheTtl := by
  obtain ⟨entry, hmem, hkey, hlt, rfl⟩ := getCachedResponse_hit hhit
  obtain ⟨t, ht, hs, rfl⟩ :=
    World.cacheBacked_run events (fun _ h => absurd h (List.not_mem_nil _)) hw entry hmem
  exact ⟨rfl, t, ht, hs, hkey, hlt⟩

theorem cache_hit_backed_by_colliding_request :
    ∃ w response,
      World.initial.run [.curlValidationEnhanced true (some (ascii "a:b")) (some (ascii "c")) true
        ⟨true, fun _ => ⟨.ok, 200⟩, 0, 0, 0, 0⟩] = some w ∧
      (w.cachedResponse 0 (cacheKey (ascii "a") (ascii "b:c"))).1 = some response ∧
      response = ascii "success" ∧
      ∃ t ∈ w.transfers, t.Succeeded ∧
        cacheKey t.endpoint t.payload = cacheKey (ascii "a") (ascii "b:c") ∧ 0 < t.storeAt + cacheTtl :=
  ⟨_, _, rfl, rfl, cache_hit_backed_by_success [.curlValidationEnhanced true (some (ascii "a:b"))
    (some (ascii "c")) true ⟨true, fun _ => ⟨.ok, 200⟩, 0, 0, 0, 0⟩] _ (ascii "a") (ascii "b:c") 0 _
    rfl rfl⟩

/-- Two requests whose `endpoint:payload` texts coincide share a cache key: after `("a:b", "c")`
succeeds, `("a", "b:c")` is answered from the cache with `CURLE_OK` and no transfer of its own,
though its transport cannot connect; the only transfer of the run is the first request's. -/
theorem colliding_request_served_from_cache :
    ((curlValidationEnhanced World.initial true (some (ascii "a:b")) (some (ascii "c")) true
        ⟨true, fun _ => ⟨.ok, 200⟩, 0, 0, 0, 0⟩).bind fun r =>
      (curlValidationEnhanced r.1 true (some (ascii "a")) (some (ascii "b:c")) true
        ⟨true, fun _ => ⟨.couldntConnect, 0⟩, 0, 0, 0, 0⟩).map
          fun r' => (r'.2, r'.1.transfers.map (·.endpoint))) =
      some ((.ok, none), [ascii "a:b"]) := by
  decide

/-! ### The cache uses of a run -/

namespace World

/-- What a call from `w` that ended in `w'` stored: `"success"` at the `storeAt` of the transfer it
logged, when that transfer succeeded. -/
def storedBy (w w' : World) : Option (Bytes × Int) :=
  match w'.transfers.drop w.transfers.length with
  | [t] =>
    if t.last.code = .ok ∧ 200 ≤ t.last.responseCode ∧ t.last.responseCode < 300 then
      some (ascii "success", t.storeAt)
    else none
  | _ => none

/-- The cache use of a call of the API from `w` that ended in `w'`: a call with non-`NULL`
arguments looks its cache key up at `lookupAt` and stores what `storedBy` says; `validation_cleanup`
empties the cache; the other calls leave it alone. -/
def cacheUse (w : World) (e : Event) (w' : World) : List CacheUse :=
  match e with
  | .curlValidationEnhanced true (some endpoint) (some payload) _ io =>
    [.request ⟨w.globalConfig.enableCaching, cacheKey endpoint payload, io.lookupAt, storedBy w w'⟩]
  | .validationCleanup => [.validationCleanup]
  | _ => []

/-- The cache uses of a run from `w`, call by call, up to the first call that is not defined. -/
def cacheUses : World → List Event → List CacheUse
  | _, [] => []
  | w, e :: es =>
    match w.step e with
    | some w' => w.cacheUse e w' ++ cacheUses w' es
    | none => []

section Step

variable {w w' : World}

theorem storedBy_of_transfers (h : w'.transfers = w.transfers) : storedBy w w' = none := by
  simp [storedBy, h]

theorem storedBy_of_transfer {t : TransferRecord} (h : w'.transfers = w.transfers ++ [t]) :
    storedBy w w' =
      if t.last.code = .ok ∧ 200 ≤ t.last.responseCode ∧ t.last.responseCode < 300 then
        some (ascii "success", t.storeAt)
      else none := by
  simp only [storedBy, h, List.drop_left]

/-- A call with non-`NULL` arguments changes the cache as its use does. -/
theorem cacheHead_curlValidationEnhanced {e p : Bytes} {error : Bool} {io : Transfer}
    {out : CURLcode × Option ValidationError}
    (h : CurlValidation.curlValidationEnhanced w true (some e) (some p) error io = some (w', out)) :
    w'.cacheHead = ((CacheUse.request ⟨w.globalConfig.enableCaching, cacheKey e p, io.lookupAt,
      storedBy w w'⟩).apply w.cacheHead).2 := by
  rcases hg : getCachedResponse w.globalConfig.enableCaching io.lookupAt (cacheKey e p) w.cacheHead
    with ⟨cached, cache'⟩
  have hc : w.cachedResponse io.lookupAt (cacheKey e p) = (cached, { w with cacheHead := cache' }) := by
    simp only [cachedResponse, hg]
  rcases curlValidationEnhanced_of_valid hc h with
    ⟨hhit, hr⟩ | ⟨rfl, c, w₁, ha, ⟨rfl, hr⟩ | ⟨c, rfl, hp⟩⟩
  · obtain ⟨v, rfl⟩ := Option.isSome_iff_exists.mp hhit
    cases hr
    simp only [CacheUse.apply, hg]
  · cases hr
    have ht : w'.transfers = w.transfers := (acquire_frame ha).2.1
    simp only [CacheUse.apply, hg, storedBy_of_transfers ht, acquire_cacheHead ha]
  · have hg₁ : w₁.globalConfig = w.globalConfig := (acquire_frame ha).1
    have ht₁ : w₁.transfers = w.transfers := (acquire_frame ha).2.1
    have hc₁ : w₁.cacheHead = cache' := acquire_cacheHead ha
    obtain ⟨-, set, -, -, -, -, ht, hcache, -⟩ := performRequest_result hp
    rw [ht₁] at ht
    rw [hcache, (cacheOrReport_spec ..).1, hc₁, storedBy_of_transfer ht, hg₁]
    split_ifs <;> simp only [CacheUse.apply, hg]

theorem cacheHead_step {e : Event} (h : w.step e = some w') :
    w'.cacheHead = (runCacheUses (w.cacheUse e w') w.cacheHead).2 := by
  cases e with
  | validationSetConfig config =>
    obtain ⟨g, -, rfl⟩ := step_validationSetConfig h
    rfl
  | curlValidationEnhanced curl endpoint payload error io =>
    obtain ⟨out, h⟩ := step_curlValidationEnhanced h
    rcases curl with _ | _ <;> rcases endpoint with _ | e <;> rcases payload with _ | p
    all_goals first
      | exact cacheHead_curlValidationEnhanced h
      | (cases h; rfl)
  | validationCleanup => cases (step_validationCleanup w).symm.trans h
  | validationGetMetrics => cases h; rfl

end Step

theorem runCacheUses_append_snd (uses more : List CacheUse) (cache : List CacheEntry) :
    (runCacheUses (uses ++ more) cache).2 = (runCacheUses more (runCacheUses uses cache).2).2 := by
  induction uses generalizing cache with
  | nil => rfl
  | cons u uses ih => simp [runCacheUses, ih]

theorem cacheHead_run : ∀ (events : List Event) {w w' : World}, w.run events = some w' →
    w'.cacheHead = (runCacheUses (w.cacheUses events) w.cacheHead).2
  | [], w, w', h => by cases h; rfl
  | e :: es, w, w', h => by
    obtain ⟨v, hv, h⟩ := Option.bind_eq_some.mp h
    simp only [cacheUses, hv]
    rw [runCacheUses_append_snd, ← cacheHead_step hv, cacheHead_run es h]

end World

/-- **The library's cache is an LRU map.** On every run of the API from the initial state, the list
from `cache_head` is what the run's cache uses (each call's lookup, and its store of `"success"`
after a transfer that succeeded) leave on the list model. It holds distinct keys, and it is the
binding list, in recency order, of the LRU map with absolute expiry that the same uses build. Every
lookup of the run answered as the map's did, and `get_cached_response` answers every later lookup
as the map's lookup does. -/
theorem cache_is_lru_map_on_every_run (events : List Event) (w : World)
    (hw : World.initial.run events = some w) :
    let uses := World.initial.cacheUses events
    w.cacheHead = (runCacheUses uses []).2 ∧ (w.cacheHead.map CacheEntry.key).Nodup ∧
      Represents w.cacheHead (LruCache.runUses uses LruCache.empty).2 ∧
      (runCacheUses uses []).1 = (LruCache.runUses uses LruCache.empty).1 ∧
      ∀ enableCaching now key, (getCachedResponse enableCaching now key w.cacheHead).1 =
        ((LruCache.runUses uses LruCache.empty).2.lookup enableCaching now key).1 := by
  intro uses
  have hlist : w.cacheHead = (runCacheUses uses []).2 := World.cacheHead_run events hw
  obtain ⟨hout, hrep⟩ := runCacheUses_refines uses (show Represents [] LruCache.empty from rfl)
  rw [← hlist] at hrep
  exact ⟨hlist, hrep.nodup, hrep, hout, fun enableCaching now key =>
    (hrep.lookup enableCaching now key).1⟩

theorem cache_is_lru_map_after_two_requests :
    ∃ w, World.initial.run [.curlValidationEnhanced true (some (ascii "a:b")) (some (ascii "c"))
        true ⟨true, fun _ => ⟨.ok, 200⟩, 0, 0, 0, 0⟩,
      .curlValidationEnhanced true (some (ascii "a")) (some (ascii "b:c")) true
        ⟨true, fun _ => ⟨.couldntConnect, 0⟩, 0, 0, 0, 0⟩] = some w ∧
      let uses := World.initial.cacheUses [.curlValidationEnhanced true (some (ascii "a:b"))
        (some (ascii "c")) true ⟨true, fun _ => ⟨.ok, 200⟩, 0, 0, 0, 0⟩,
        .curlValidationEnhanced true (some (ascii "a")) (some (ascii "b:c")) true
          ⟨true, fun _ => ⟨.couldntConnect, 0⟩, 0, 0, 0, 0⟩]
      w.cacheHead = (runCacheUses uses []).2 ∧ (w.cacheHead.map CacheEntry.key).Nodup ∧
        Represents w.cacheHead (LruCache.runUses uses LruCache.empty).2 ∧
        (runCacheUses uses []).1 = (LruCache.runUses uses LruCache.empty).1 ∧
        ∀ enableCaching now key, (getCachedResponse enableCaching now key w.cacheHead).1 =
          ((LruCache.runUses uses LruCache.empty).2.lookup enableCaching now key).1 :=
  ⟨_, rfl, cache_is_lru_map_on_every_run [.curlValidationEnhanced true (some (ascii "a:b"))
    (some (ascii "c")) true ⟨true, fun _ => ⟨.ok, 200⟩, 0, 0, 0, 0⟩,
    .curlValidationEnhanced true (some (ascii "a")) (some (ascii "b:c")) true
      ⟨true, fun _ => ⟨.couldntConnect, 0⟩, 0, 0, 0, 0⟩] _ rfl⟩

end CurlValidation
