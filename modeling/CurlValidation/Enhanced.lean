import CurlValidation.Config
import CurlValidation.Pool
import CurlValidation.Cache
import CurlValidation.Retry
import CurlValidation.Metrics

/-!
# The request lifecycle

`curl_validation_enhanced` checks its arguments, answers from the cache when it can, takes a
connection from the pool, sets the request up on it, runs the retry engine, records a metric,
caches a 2xx response or fills `*error`, and returns the connection to the pool. The state it works
on is process-wide: `global_config`, `connection_pool`, `cache_head`, the metrics buffer, and
libcurl's easy handles, which `curl_easy_init` makes and `curl_easy_cleanup` destroys.

A step is `none` when its behaviour is undefined: reading a pool slot never written, using or
destroying a destroyed handle, formatting a `NULL` `base_url`, reading `res` unassigned, or freeing
the string literal `base_url` points at, which `validation_set_config` with a non-`NULL` `base_url`
and every `validation_cleanup` do.
-/

namespace CurlValidation

/-- The part of a libcurl easy handle the code sets or reads. -/
structure EasyHandle where
  url : Option Bytes
  httpHeader : List Bytes
  postFields : Option Bytes
  timeout : Option Int
  sslCert : Option Bytes
  sslKey : Option Bytes
  /-- `CURLINFO_RESPONSE_CODE`: the status of the handle's last transfer, 0 before any. -/
  responseCode : Int
deriving DecidableEq, Repr

/-- A handle as `curl_easy_init` makes it. -/
def EasyHandle.fresh : EasyHandle := ⟨none, [], none, none, none, none, 0⟩

/-- The text `set_validation_error` copies into `message`. -/
inductive ErrorText
  | text (s : String)
  /-- `curl_easy_strerror(code)`, libcurl's text for the code. -/
  | strerror (code : CURLcode)
deriving DecidableEq, Repr

/-- `validation_error_t` as `set_validation_error` fills it; the `strftime` timestamp is left out. -/
structure ValidationError where
  code : Int
  message : ErrorText
  details : Option String
deriving DecidableEq, Repr

/-- `set_validation_error(error, code, message, details)`; nothing is written when `error` is
`NULL`. -/
def setValidationError (error : Bool) (code : Int) (message : ErrorText) (details : Option String) :
    Option ValidationError :=
  if error then some ⟨code, message, details⟩ else none

/-- Ghost: one call of `validation_retry_with_backoff` as the caller and the server see it. -/
structure TransferRecord where
  /-- The `endpoint` and `payload` of the request. -/
  endpoint : Bytes
  payload : Bytes
  /-- The options set on the connection. -/
  options : EasyHandle
  /-- The `max_retries` passed to the retry engine. -/
  maxRetries : Int
  /-- The outcome of the last attempt. -/
  last : Outcome
  /-- The `time(NULL)` reading of `cache_response`, had it been called. -/
  storeAt : Int

/-- The last attempt completed with `CURLE_OK` and a 2xx status. -/
def TransferRecord.Succeeded (t : TransferRecord) : Prop :=
  t.last.code = .ok ∧ 200 ≤ t.last.responseCode ∧ t.last.responseCode < 300

/-- The process-wide state, with libcurl's handles. -/
structure World where
  globalConfig : ValidationConfig
  connectionPool : ConnectionPool
  cacheHead : List CacheEntry
  metrics : MetricsStore
  /-- The easy handles: `none` before `curl_easy_init` made one and after `curl_easy_cleanup`. -/
  easy : Handle → Option EasyHandle
  /-- `curl_easy_init` has made the handles `0, ..., created - 1`. -/
  created : Nat
  /-- Ghost: the calls of `validation_retry_with_backoff` so far, in order. -/
  transfers : List TransferRecord

def World.initial : World :=
  ⟨initialGlobalConfig, ConnectionPool.initial, [], MetricsStore.initial, fun _ => none, 0, []⟩

/-- What the environment supplies to one call: whether `curl_easy_init` succeeds, what each
`curl_easy_perform` reports, and the `time(NULL)` readings in the order the code makes them. -/
structure Transfer where
  easyInit : Bool
  transport : Nat → Outcome
  lookupAt : Int
  startAt : Int
  finishAt : Int
  storeAt : Int

/-- `snprintf(cache_key, sizeof(cache_key), "%s:%s", endpoint, payload)`. -/
def cacheKey (endpoint payload : Bytes) : Bytes := snprintf 256 (endpoint ++ ascii ":" ++ payload)

/-- The two headers of every request. -/
def jsonHeaders : List Bytes :=
  [ascii "Content-Type: application/json", ascii "Accept: application/json"]

/-- Lines 327-346: the options set on the connection; the certificate and key are set only when
configured, and otherwise whatever the handle held stays. Undefined when `base_url` is `NULL`. -/
def setupRequest (config : ValidationConfig) (endpoint payload : Bytes) (handle : EasyHandle) :
    Option EasyHandle :=
  config.baseUrl.map fun baseUrl =>
    { handle with
      url := some (snprintf 512 (baseUrl ++ ascii "/" ++ endpoint))
      httpHeader := jsonHeaders
      postFields := some payload
      timeout := some config.timeout
      sslCert := config.clientCertPath.or handle.sslCert
      sslKey := config.clientKeyPath.or handle.sslKey }

/-- Lines 360-378: a `CURLE_OK` with a 2xx status caches `"success"` under the key; any other result
fills `*error` with the status or the `CURLcode`. -/
def cacheOrReport (enableCaching error : Bool) (storeAt : Int) (key : Bytes) (res : CURLcode)
    (responseCode : Int) (cache : List CacheEntry) : List CacheEntry × Option ValidationError :=
  if res = CURLcode.ok then
    if 200 ≤ responseCode ∧ responseCode < 300 then
      (cacheResponse enableCaching storeAt key (ascii "success") cache, none)
    else (cache, setValidationError error responseCode (.text ("HTTP " ++ toString responseCode))
      (some "API returned non-200 status"))
  else (cache, setValidationError error res.val (.strerror res) (some "CURL operation failed"))

namespace World

/-- `curl_easy_cleanup(h)`; undefined on a handle already destroyed. -/
def destroy (w : World) (h : Handle) : Option World :=
  if (w.easy h).isSome then some { w with easy := Function.update w.easy h none } else none

/-- `get_connection_from_pool()`, with `curl_easy_init` resolved: the connection, `none` for
`NULL`. -/
def acquire (w : World) (easyInit : Bool) : Option (Option Handle × World) :=
  match getConnectionFromPool w.globalConfig.enableConnectionPooling w.connectionPool with
  | (.easyInit, pool) =>
    if easyInit then
      some (some w.created,
        { w with
          connectionPool := pool
          easy := Function.update w.easy w.created (some .fresh)
          created := w.created + 1 })
    else some (none, { w with connectionPool := pool })
  | (.pooled (some h), pool) => some (some h, { w with connectionPool := pool })
  | (.pooled none, _) => none

/-- `return_connection_to_pool(connection)`. -/
def release (w : World) (connection : Handle) : Option World :=
  match returnConnectionToPool w.globalConfig.enableConnectionPooling connection w.connectionPool with
  | some (.pooled pool) => some { w with connectionPool := pool }
  | some .cleanedUp => w.destroy connection
  | none => none

end World

/-- Lines 327-384, once the call holds `connection`: set the request up, run the retry engine,
record the metric, cache or report, and return the connection to the pool. The transfer is logged
with the request, the options set on the connection, the retry bound and the last outcome. -/
def performRequest (w : World) (connection : Handle) (endpoint payload key : Bytes) (error : Bool)
    (io : Transfer) : Option (World × CURLcode × Option ValidationError) := do
  let handle ← w.easy connection
  let handle ← setupRequest w.globalConfig endpoint payload handle
  let r := validationRetryWithBackoff io.transport w.globalConfig.maxRetries
  let transfers := w.transfers ++
    [⟨endpoint, payload, handle, w.globalConfig.maxRetries, io.transport (r.attempts - 1), io.storeAt⟩]
  let handle := if r.attempts = 0 then handle
    else { handle with responseCode := (io.transport (r.attempts - 1)).responseCode }
  let metrics ← recordMetrics w.globalConfig.enableMetrics ⟨io.finishAt - io.startAt, 0, 0, 0⟩ w.metrics
  let res ← r.res
  let (cacheHead, report) :=
    cacheOrReport w.globalConfig.enableCaching error io.storeAt key res handle.responseCode w.cacheHead
  let w ← World.release
    { w with cacheHead, metrics, transfers, easy := Function.update w.easy connection (some handle) }
    connection
  some (w, res, report)

/-- `get_cached_response(key)` on the process's cache. -/
def World.cachedResponse (w : World) (now : Int) (key : Bytes) : Option Bytes × World :=
  let (cached, cacheHead) := getCachedResponse w.globalConfig.enableCaching now key w.cacheHead
  (cached, { w with cacheHead })

/-- `curl_validation_enhanced(curl, endpoint, payload, error)`: the state after the call, the code it
returns and what it wrote into `*error`. `curl` and `error` matter only as `NULL` or not. -/
def curlValidationEnhanced (w : World) (curl : Bool) (endpoint payload : Option Bytes) (error : Bool)
    (io : Transfer) : Option (World × CURLcode × Option ValidationError) :=
  match curl, endpoint, payload with
  | true, some endpoint, some payload =>
    let key := cacheKey endpoint payload
    let (cached, w) := w.cachedResponse io.lookupAt key
    if cached.isSome then some (w, .ok, none)
    else do
      let (connection, w) ← w.acquire io.easyInit
      match connection with
      | none => some (w, .outOfMemory, setValidationError error 500
          (.text "Connection pool exhausted") (some "Unable to get connection from pool"))
      | some connection => performRequest w connection endpoint payload key error io
  | _, _, _ => some (w, .badFunctionArgument, setValidationError error 400
      (.text "Invalid parameters") (some "curl, endpoint, or payload is NULL"))

/-- `validation_cleanup()`: the cache is emptied, the pooled handles destroyed, the metrics
dropped, and then `base_url` is freed; the certificate and key `free`s after it are not reached. -/
def validationCleanup (w : World) : Option World := do
  let (handles, pool) := poolCleanup w.connectionPool
  let w ← (← handles.allSome).foldlM World.destroy w
  let w := { w with cacheHead := [], connectionPool := pool, metrics := metricsCleanup w.metrics }
  freeBaseUrl
  some w

/-- A call of the public API. -/
inductive Event
  | validationSetConfig (config : ValidationConfig)
  | curlValidationEnhanced (curl : Bool) (endpoint payload : Option Bytes) (error : Bool)
      (io : Transfer)
  | validationCleanup
  | validationGetMetrics

namespace World

def step (w : World) : Event → Option World
  | .validationSetConfig config =>
    (CurlValidation.validationSetConfig w.globalConfig config).map
      fun globalConfig => { w with globalConfig }
  | .curlValidationEnhanced curl endpoint payload error io =>
    (CurlValidation.curlValidationEnhanced w curl endpoint payload error io).map (·.1)
  | .validationCleanup => CurlValidation.validationCleanup w
  | .validationGetMetrics => some w

def run : World → List Event → Option World
  | w, [] => some w
  | w, e :: es => (w.step e).bind (run · es)

end World

/-! ### One lemma per phase

What each phase of a call can do, stated once: the results about whole runs cite these lemmas and
never unfold a call. -/

/-- What lines 360-378 do: the cache gains the entry exactly after a `CURLE_OK` with a 2xx status;
`*error` is filled exactly otherwise, unless `NULL`, with the status or the `CURLcode`. -/
theorem cacheOrReport_spec (enableCaching error : Bool) (storeAt : Int) (key : Bytes)
    (res : CURLcode) (responseCode : Int) (cache : List CacheEntry) :
    (cacheOrReport enableCaching error storeAt key res responseCode cache).1 =
        (if res = .ok ∧ 200 ≤ responseCode ∧ responseCode < 300 then
          cacheResponse enableCaching storeAt key (ascii "success") cache
        else cache) ∧
      ((cacheOrReport enableCaching error storeAt key res responseCode cache).2 = none ↔
        error = false ∨ res = .ok ∧ 200 ≤ responseCode ∧ responseCode < 300) ∧
      ∀ v, (cacheOrReport enableCaching error storeAt key res responseCode cache).2 = some v →
        v.code = if res = .ok then responseCode else res.val := by
  unfold cacheOrReport setValidationError
  by_cases hres : res = .ok <;> by_cases h2xx : 200 ≤ responseCode ∧ responseCode < 300 <;>
    cases error <;> simp [hres, h2xx]

theorem setupRequest_eq_some {config : ValidationConfig} {endpoint payload : Bytes}
    {handle set : EasyHandle} (h : setupRequest config endpoint payload handle = some set) :
    ∃ baseUrl, config.baseUrl = some baseUrl ∧
      set = { handle with
        url := some (snprintf 512 (baseUrl ++ ascii "/" ++ endpoint))
        httpHeader := jsonHeaders
        postFields := some payload
        timeout := some config.timeout
        sslCert := config.clientCertPath.or handle.sslCert
        sslKey := config.clientKeyPath.or handle.sslKey } := by
  simp only [setupRequest, Option.map_eq_some'] at h
  obtain ⟨baseUrl, hb, rfl⟩ := h
  exact ⟨baseUrl, hb, rfl⟩

namespace World

variable {w w' : World}

theorem destroy_eq_some {h : Handle} (hd : w.destroy h = some w') :
    w' = { w with easy := Function.update w.easy h none } := by
  unfold destroy at hd
  split_ifs at hd
  exact (Option.some.inj hd).symm

theorem release_eq_some {c : Handle} (hr : w.release c = some w') :
    (∃ pool, returnConnectionToPool w.globalConfig.enableConnectionPooling c w.connectionPool =
        some (.pooled pool) ∧ w' = { w with connectionPool := pool }) ∨
      w' = { w with easy := Function.update w.easy c none } := by
  unfold release at hr
  split at hr
  · exact .inl ⟨_, ‹_›, (Option.some.inj hr).symm⟩
  · exact .inr (destroy_eq_some hr)
  · cases hr

/-- Returning a live handle is defined when the pool can take a return. -/
theorem release_ne_none {c : Handle}
    (hpool : returnConnectionToPool w.globalConfig.enableConnectionPooling c w.connectionPool ≠ none)
    (hlive : w.easy c ≠ none) : w.release c ≠ none := by
  unfold release destroy
  split
  · exact Option.some_ne_none _
  · rw [if_pos (Option.ne_none_iff_isSome.mp hlive)]
    exact Option.some_ne_none _
  · exact absurd ‹_› hpool

/-- Every live handle satisfies `P`. -/
def AllLive (P : EasyHandle → Prop) (w : World) : Prop := ∀ h st, w.easy h = some st → P st

/-- `w'` has the configuration and the transfer log of `w`, and only handles live in `w`. -/
structure Keeps (w w' : World) : Prop where
  globalConfig : w'.globalConfig = w.globalConfig
  transfers : w'.transfers = w.transfers
  easy : ∀ c st, w'.easy c = some st → w.easy c = some st

theorem Keeps.refl (w : World) : w.Keeps w := ⟨rfl, rfl, fun _ _ => id⟩

theorem Keeps.trans {w₁ w₂ w₃ : World} (h₁ : w₁.Keeps w₂) (h₂ : w₂.Keeps w₃) : w₁.Keeps w₃ :=
  ⟨h₂.1.trans h₁.1, h₂.2.trans h₁.2, fun c st h => h₁.3 c st (h₂.3 c st h)⟩

/-- Forgetting a handle keeps everything else. -/
theorem keeps_forget (w : World) (h : Handle) :
    w.Keeps { w with easy := Function.update w.easy h none } := by
  refine ⟨rfl, rfl, fun c st hst => ?_⟩
  by_cases hc : c = h
  · subst hc; simp at hst
  · simpa [Function.update_noteq hc] using hst

theorem keeps_destroy {h : Handle} (hd : w.destroy h = some w') : w.Keeps w' :=
  destroy_eq_some hd ▸ keeps_forget w h

theorem keeps_release {c : Handle} (hr : w.release c = some w') : w.Keeps w' := by
  rcases release_eq_some hr with ⟨pool, -, rfl⟩ | rfl
  · exact ⟨rfl, rfl, fun _ _ => id⟩
  · exact keeps_forget w c

theorem keeps_foldlM_destroy : ∀ (handles : List Handle) {w w' : World},
    handles.foldlM destroy w = some w' → w.Keeps w'
  | [], w, w', h => by cases h; exact Keeps.refl w
  | c :: cs, w, w', h => by
    simp only [List.foldlM_cons, bind, Option.bind_eq_some] at h
    obtain ⟨w₁, hd, h⟩ := h
    exact (keeps_destroy hd).trans (keeps_foldlM_destroy cs h)

theorem acquire_eq_some {easyInit : Bool} {c : Option Handle}
    (ha : w.acquire easyInit = some (c, w')) :
    let pool := (getConnectionFromPool w.globalConfig.enableConnectionPooling w.connectionPool).2
    w' = { w with connectionPool := pool } ∨
      c = some w.created ∧
        w' = { w with
          connectionPool := pool
          easy := Function.update w.easy w.created (some .fresh)
          created := w.created + 1 } := by
  intro pool
  unfold acquire at ha
  split at ha <;> rename_i hg <;> simp only [pool, hg]
  · split_ifs at ha <;> cases ha
    · exact .inr ⟨rfl, rfl⟩
    · exact .inl rfl
  · cases ha; exact .inl rfl
  · cases ha

theorem acquire_cacheHead {easyInit : Bool} {c : Option Handle}
    (ha : w.acquire easyInit = some (c, w')) : w'.cacheHead = w.cacheHead := by
  rcases acquire_eq_some ha with rfl | ⟨-, rfl⟩ <;> rfl

theorem release_cacheHead {c : Handle} (hr : w.release c = some w') : w'.cacheHead = w.cacheHead := by
  rcases release_eq_some hr with ⟨pool, -, rfl⟩ | rfl <;> rfl

theorem release_metrics {c : Handle} (hr : w.release c = some w') : w'.metrics = w.metrics := by
  rcases release_eq_some hr with ⟨pool, -, rfl⟩ | rfl <;> rfl

/-- A return leaves the pool as it was, or as `return_connection_to_pool` put the handle in it. -/
theorem release_connectionPool {c : Handle} (hr : w.release c = some w') :
    w'.connectionPool = w.connectionPool ∨
      returnConnectionToPool w.globalConfig.enableConnectionPooling c w.connectionPool =
        some (.pooled w'.connectionPool) := by
  rcases release_eq_some hr with ⟨pool, hp, rfl⟩ | rfl
  · exact .inr hp
  · exact .inl rfl

theorem acquire_frame {easyInit : Bool} {c : Option Handle} (ha : w.acquire easyInit = some (c, w')) :
    w'.globalConfig = w.globalConfig ∧ w'.transfers = w.transfers ∧
      ∀ c st, w'.easy c = some st → w.easy c = some st ∨ st = .fresh := by
  rcases acquire_eq_some ha with rfl | ⟨-, rfl⟩
  · exact ⟨rfl, rfl, fun _ _ => .inl⟩
  · refine ⟨rfl, rfl, fun c st hst => ?_⟩
    by_cases hc : c = w.created
    · subst hc; simp at hst; exact .inr hst.symm
    · simp only [Function.update_noteq hc] at hst; exact .inl hst

end World

/-- **What a request on a held connection does.** It sets up the handle the connection names, makes
at least one attempt and returns the last one's code; it logs the transfer, caches or reports on that
last outcome, and leaves the handle with the options set and the last status, or destroyed. -/
theorem performRequest_result {w w' : World} {c : Handle} {endpoint payload key : Bytes}
    {error : Bool} {io : Transfer} {res : CURLcode} {report : Option ValidationError}
    (h : performRequest w c endpoint payload key error io = some (w', res, report)) :
    let r := validationRetryWithBackoff io.transport w.globalConfig.maxRetries
    let last := io.transport (r.attempts - 1)
    ∃ handle set, w.easy c = some handle ∧
      setupRequest w.globalConfig endpoint payload handle = some set ∧
      0 < r.attempts ∧ res = last.code ∧
      w'.transfers =
        w.transfers ++ [⟨endpoint, payload, set, w.globalConfig.maxRetries, last, io.storeAt⟩] ∧
      w'.cacheHead = (cacheOrReport w.globalConfig.enableCaching error io.storeAt key last.code
        last.responseCode w.cacheHead).1 ∧
      report = (cacheOrReport w.globalConfig.enableCaching error io.storeAt key last.code
        last.responseCode w.cacheHead).2 ∧
      w'.globalConfig = w.globalConfig ∧
      (∀ c' st, w'.easy c' = some st →
        w.easy c' = some st ∨ st = { set with responseCode := last.responseCode }) ∧
      recordMetrics w.globalConfig.enableMetrics ⟨io.finishAt - io.startAt, 0, 0, 0⟩ w.metrics =
        some w'.metrics ∧
      (w'.connectionPool = w.connectionPool ∨
        returnConnectionToPool w.globalConfig.enableConnectionPooling c w.connectionPool =
          some (.pooled w'.connectionPool)) := by
  intro r last
  simp only [performRequest, bind, Option.bind_eq_some] at h
  obtain ⟨handle, hh, set, hs, metrics, hm, res', hres, w'', hrel, ⟨⟩⟩ := h
  rw [res_validationRetryWithBackoff] at hres
  split_ifs at hres with hpos
  cases hres
  simp only [hpos, if_false] at hrel
  obtain ⟨hg, ht, he⟩ := World.keeps_release hrel
  refine ⟨handle, set, hh, hs, Nat.pos_of_ne_zero hpos, rfl, ht, World.release_cacheHead hrel,
    by rw [if_neg hpos], hg, fun c' st hst => ?_, World.release_metrics hrel ▸ hm,
    (World.release_connectionPool hrel :)⟩
  have hst := he c' st hst
  by_cases hc : c' = c
  · subst hc
    simp only [Function.update_same, Option.some.injEq] at hst
    exact .inr hst.symm
  · simp only [Function.update_noteq hc] at hst
    exact .inl hst

section Call

variable {w w' : World} {curl error : Bool} {endpoint payload : Option Bytes} {io : Transfer}
  {r : World × CURLcode × Option ValidationError}

/-- A call with a `NULL` argument reports it and changes nothing; the others run the valid path. -/
theorem curlValidationEnhanced_cases
    (h : curlValidationEnhanced w curl endpoint payload error io = some r) :
    r = (w, .badFunctionArgument, setValidationError error 400 (.text "Invalid parameters")
        (some "curl, endpoint, or payload is NULL")) ∨
      ∃ e p, curl = true ∧ endpoint = some e ∧ payload = some p ∧
        curlValidationEnhanced w true (some e) (some p) error io = some r := by
  rcases curl with _ | _ <;> rcases endpoint with _ | e <;> rcases payload with _ | p <;>
    first | exact .inr ⟨e, p, rfl, rfl, rfl, h⟩ | exact .inl (Option.some.inj h).symm

/-- The valid path: a cache hit returns at once; a miss takes a connection, and either reports the
exhausted pool or performs the request on it. -/
theorem curlValidationEnhanced_of_valid {e p : Bytes} {cached : Option Bytes} {w₀ : World}
    (hc : w.cachedResponse io.lookupAt (cacheKey e p) = (cached, w₀))
    (h : curlValidationEnhanced w true (some e) (some p) error io = some r) :
    (cached.isSome ∧ r = (w₀, .ok, none)) ∨
      cached = none ∧ ∃ c w₁, w₀.acquire io.easyInit = some (c, w₁) ∧
        ((c = none ∧ r = (w₁, .outOfMemory, setValidationError error 500
            (.text "Connection pool exhausted") (some "Unable to get connection from pool"))) ∨
          ∃ connection, c = some connection ∧
            performRequest w₁ connection e p (cacheKey e p) error io = some r) := by
  simp only [curlValidationEnhanced, hc] at h
  split_ifs at h with hhit
  · exact .inl ⟨hhit, (Option.some.inj h).symm⟩
  · simp only [bind, Option.bind_eq_some] at h
    obtain ⟨⟨c, w₁⟩, ha, h⟩ := h
    refine .inr ⟨by simpa using hhit, c, w₁, ha, ?_⟩
    rcases c with _ | c
    · exact .inl ⟨rfl, (Option.some.inj h).symm⟩
    · exact .inr ⟨c, rfl, h⟩

/-- A call that misses the cache and obtains a connection performs the request on it. -/
theorem curlValidationEnhanced_of_acquire {e p : Bytes} {w₀ w₁ : World} {connection : Handle}
    (hmiss : w.cachedResponse io.lookupAt (cacheKey e p) = (none, w₀))
    (hacq : w₀.acquire io.easyInit = some (some connection, w₁)) :
    curlValidationEnhanced w true (some e) (some p) error io =
      performRequest w₁ connection e p (cacheKey e p) error io := by
  simp only [curlValidationEnhanced, hmiss, Option.isSome_none, Bool.false_eq_true, if_false, bind,
    Option.bind_eq_bind, hacq, Option.some_bind]

/-- **What a call can do.** It keeps the configuration. Unless it performs a transfer, it keeps the
transfer log and leaves only handles that were live or fresh. A transfer is made with the options
`setupRequest` sets on a live or fresh handle, and is logged with the request and the configured
retry bound; the handle then holds those options, with the status of the last attempt. -/
theorem curlValidationEnhanced_frame {out : CURLcode × Option ValidationError}
    (h : curlValidationEnhanced w curl endpoint payload error io = some (w', out)) :
    w'.globalConfig = w.globalConfig ∧
      ((w'.transfers = w.transfers ∧ ∀ c st, w'.easy c = some st → w.easy c = some st ∨ st = .fresh) ∨
        ∃ e p handle set last storeAt, endpoint = some e ∧ payload = some p ∧
          (handle = .fresh ∨ ∃ c, w.easy c = some handle) ∧
          setupRequest w.globalConfig e p handle = some set ∧
          w'.transfers = w.transfers ++ [⟨e, p, set, w.globalConfig.maxRetries, last, storeAt⟩] ∧
          ∀ c st, w'.easy c = some st → w.easy c = some st ∨ st = .fresh ∨
            ∃ code, st = { set with responseCode := code }) := by
  rcases curlValidationEnhanced_cases h with h | ⟨e, p, rfl, rfl, rfl, h⟩
  · cases h; exact ⟨rfl, .inl ⟨rfl, fun _ _ => .inl⟩⟩
  rcases curlValidationEnhanced_of_valid rfl h with
    ⟨-, hr⟩ | ⟨-, c, w₁, ha, ⟨rfl, hr⟩ | ⟨c, rfl, hp⟩⟩
  · cases hr; exact ⟨rfl, .inl ⟨rfl, fun _ _ => .inl⟩⟩
  · cases hr; exact ⟨(World.acquire_frame ha).1, .inl (World.acquire_frame ha).2⟩
  obtain ⟨hg₁, ht₁, he₁⟩ := World.acquire_frame ha
  obtain ⟨handle, set, hh, hs, -, -, ht, -, -, hg, he, -⟩ := performRequest_result hp
  refine ⟨hg.trans hg₁, .inr ⟨e, p, handle, set,
    io.transport ((validationRetryWithBackoff io.transport w.globalConfig.maxRetries).attempts - 1),
    io.storeAt, rfl, rfl, ?_, hg₁ ▸ hs, ?_, fun c' st hst => ?_⟩⟩
  · exact (he₁ c handle hh).symm.imp id fun h => ⟨c, h⟩
  · rw [ht, ht₁, hg₁]
  · rcases he c' st hst with hst | rfl
    · exact (he₁ c' st hst).imp_right .inl
    · exact .inr (.inr ⟨_, rfl⟩)

end Call

/-- `validation_cleanup` never returns: whatever it destroys first, it ends by freeing the
string-literal `base_url`. -/
theorem validationCleanup_eq_none (w : World) : validationCleanup w = none := by
  simp only [validationCleanup, freeBaseUrl, bind, Option.bind_eq_bind]
  cases (poolCleanup w.connectionPool).1.allSome <;> simp

theorem World.step_validationCleanup (w : World) : w.step .validationCleanup = none :=
  validationCleanup_eq_none w

/-- A `validation_set_config` that returns changes the configuration alone. -/
theorem World.step_validationSetConfig {w w' : World} {config : ValidationConfig}
    (h : w.step (.validationSetConfig config) = some w') :
    ∃ g, validationSetConfig w.globalConfig config = some g ∧ { w with globalConfig := g } = w' :=
  Option.map_eq_some'.mp h

theorem World.step_curlValidationEnhanced {w w' : World} {curl error : Bool}
    {endpoint payload : Option Bytes} {io : Transfer}
    (h : w.step (.curlValidationEnhanced curl endpoint payload error io) = some w') :
    ∃ out, curlValidationEnhanced w curl endpoint payload error io = some (w', out) := by
  simp only [World.step, Option.map_eq_some'] at h
  obtain ⟨⟨w'', out⟩, h, rfl⟩ := h
  exact ⟨out, h⟩

end CurlValidation
