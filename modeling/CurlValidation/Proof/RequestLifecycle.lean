import CurlValidation.Proof.WorldBounds

/-!
# What a request reads, and what it reports

A transfer is set up from `global_config` as the calls of `validation_set_config` left it: the
numbers and toggles of the last configuration, and for the certificate and the key the last
non-`NULL` one given, since a `NULL` string keeps the old value. A non-`NULL` `base_url` frees the
string literal of the default, so on every run the program can make `base_url` stays the default. A
handle reused from the pool brings nothing of its own: a handle holds a certificate or a key only
once the configuration has one, and from then on every set-up overwrites it. The URL is cut to the
511 bytes `snprintf` fits into `url[512]`.

The return code of a call that performs a transfer is the `CURLcode` of the last attempt, whatever
its HTTP status; `*error` is filled exactly when the call did not succeed with a 2xx status. With
`max_retries ≥ 1` such a call on a live connection always runs to its end.
-/

namespace CurlValidation

/-- The configurations a run passes to `validation_set_config`, in order. -/
def configsOf (events : List Event) : List ValidationConfig :=
  events.filterMap fun
    | .validationSetConfig config => some config
    | _ => none

theorem configsOf_cons (e : Event) (events : List Event) :
    configsOf (e :: events) = configsOf [e] ++ configsOf events := by
  cases e <;> rfl

/-- A handle holds a client certificate or key only when the configuration holds one. -/
def CertsFrom (config : ValidationConfig) (handle : EasyHandle) : Prop :=
  (config.clientCertPath = none → handle.sslCert = none) ∧
    (config.clientKeyPath = none → handle.sslKey = none)

theorem certsFrom_fresh (config : ValidationConfig) : CertsFrom config .fresh :=
  ⟨fun _ => rfl, fun _ => rfl⟩

/-- On a handle that holds no certificate or key the configuration lacks, the set-up leaves exactly
the configured ones. -/
theorem certs_setupRequest {config : ValidationConfig} {endpoint payload : Bytes}
    {handle set : EasyHandle} (hc : CertsFrom config handle)
    (hs : setupRequest config endpoint payload handle = some set) :
    set.sslCert = config.clientCertPath ∧ set.sslKey = config.clientKeyPath := by
  obtain ⟨baseUrl, -, rfl⟩ := setupRequest_eq_some hs
  constructor
  · cases h : config.clientCertPath <;> simp [h, hc.1]
  · cases h : config.clientKeyPath <;> simp [h, hc.2]

namespace World

/-! ### The configuration along a run -/

theorem step_globalConfig {w w' : World} {e : Event} (h : w.step e = some w') :
    (configsOf [e]).foldlM validationSetConfig w.globalConfig = some w'.globalConfig := by
  cases e with
  | validationSetConfig config =>
    obtain ⟨g, hg, rfl⟩ := step_validationSetConfig h
    simpa [configsOf] using hg
  | curlValidationEnhanced curl endpoint payload error io =>
    obtain ⟨out, h⟩ := step_curlValidationEnhanced h
    rw [(curlValidationEnhanced_frame h).1]
    rfl
  | validationCleanup => cases (step_validationCleanup w).symm.trans h
  | validationGetMetrics => cases h; rfl

theorem run_globalConfig : ∀ (events : List Event) {w w' : World}, w.run events = some w' →
    (configsOf events).foldlM validationSetConfig w.globalConfig = some w'.globalConfig
  | [], w, w', h => by cases h; rfl
  | e :: es, w, w', h => by
    obtain ⟨v, hv, h⟩ := Option.bind_eq_some.mp h
    rw [configsOf_cons e es, List.foldlM_append, step_globalConfig hv]
    exact run_globalConfig es h

/-- On a run from the initial state every configuration given has a `NULL` `base_url`, so
`base_url` is the default. -/
theorem baseUrl_run {events : List Event} {w : World} (hw : initial.run events = some w) :
    (∀ c ∈ configsOf events, c.baseUrl = none) ∧ w.globalConfig.baseUrl = some defaultBaseUrl := by
  have hg := run_globalConfig events hw
  rw [foldlM_validationSetConfig] at hg
  split_ifs at hg with hall
  exact ⟨by simpa using hall, (congrArg ValidationConfig.baseUrl (Option.some.inj hg)).symm⟩

/-! ### No certificate outlives the configuration -/

theorem allLive_initial : initial.AllLive (CertsFrom initial.globalConfig) :=
  fun _ _ h => by cases h

theorem certsFrom_step {w w' : World} {e : Event} (hw : w.AllLive (CertsFrom w.globalConfig))
    (h : w.step e = some w') : w'.AllLive (CertsFrom w'.globalConfig) := by
  cases e with
  | validationSetConfig config =>
    obtain ⟨g, hg, rfl⟩ := step_validationSetConfig h
    obtain ⟨-, rfl⟩ := validationSetConfig_eq_some hg
    intro c st hst
    have hc := hw c st hst
    exact ⟨fun hn => hc.1 (Option.or_eq_none.mp hn).2, fun hn => hc.2 (Option.or_eq_none.mp hn).2⟩
  | curlValidationEnhanced curl endpoint payload error io =>
    obtain ⟨out, h⟩ := step_curlValidationEnhanced h
    obtain ⟨hg, ⟨-, he⟩ | ⟨e, p, handle, set, -, -, -, -, horig, hs, -, he⟩⟩ :=
      curlValidationEnhanced_frame h
    all_goals intro c st hst; rw [hg]
    · rcases he c st hst with hst | rfl
      · exact hw c st hst
      · exact certsFrom_fresh _
    · have hh : CertsFrom w.globalConfig handle :=
        horig.elim (· ▸ certsFrom_fresh _) fun ⟨c', hc'⟩ => hw c' handle hc'
      obtain ⟨hcert, hkey⟩ := certs_setupRequest hh hs
      rcases he c st hst with hst | rfl | ⟨code, rfl⟩
      · exact hw c st hst
      · exact certsFrom_fresh _
      · exact ⟨fun hn => hcert.trans hn, fun hn => hkey.trans hn⟩
  | validationCleanup => cases (step_validationCleanup w).symm.trans h
  | validationGetMetrics => cases h; exact hw

theorem certsFrom_run : ∀ (events : List Event) {w w' : World},
    w.AllLive (CertsFrom w.globalConfig) → w.run events = some w' →
      w'.AllLive (CertsFrom w'.globalConfig)
  | [], w, w', hw, h => by cases h; exact hw
  | e :: es, w, w', hw, h => by
    obtain ⟨v, hv, h⟩ := Option.bind_eq_some.mp h
    exact certsFrom_run es (certsFrom_step hw hv) h

end World

/-! ### The request a transfer makes -/

/-- **The transfer uses the effective configuration.** After any run from the initial state in
which `validation_set_config` was last called with `config`, every configuration given had a `NULL`
`base_url`: one that had not freed the string literal of the default, and the run stopped there. A
call that performs a transfer then sets the URL to the default `base_url/endpoint` cut to 511 bytes,
sets the JSON headers, the payload and `config.timeout`, runs the retry engine with
`config.max_retries`, and presents the last non-`NULL` client certificate and key given, none when
none was ever given: nothing else is carried over by a handle reused from the pool. -/
theorem transfer_uses_effective_config (events : List Event) (config : ValidationConfig)
    (curl error : Bool) (endpoint : Bytes) (payload : Option Bytes) (io : Transfer)
    (w w' : World) (t : TransferRecord)
    (hw : World.initial.run events = some w)
    (hlast : (configsOf events).getLast? = some config)
    (hcall : w.step (.curlValidationEnhanced curl (some endpoint) payload error io) = some w')
    (htransfer : w'.transfers = w.transfers ++ [t]) :
    (∀ c ∈ configsOf events, c.baseUrl = none) ∧
      t.options.url = some (snprintf 512 (defaultBaseUrl ++ ascii "/" ++ endpoint)) ∧
      t.options.httpHeader = jsonHeaders ∧ t.options.postFields = payload ∧
      t.options.timeout = some config.timeout ∧ t.maxRetries = config.maxRetries ∧
      t.options.sslCert = lastSet ((configsOf events).map (·.clientCertPath)) none ∧
      t.options.sslKey = lastSet ((configsOf events).map (·.clientKeyPath)) none := by
  obtain ⟨hnull, hbase⟩ := World.baseUrl_run hw
  obtain ⟨htimeout, hretries, hcertCfg, hkeyCfg⟩ :
      w.globalConfig.timeout = config.timeout ∧ w.globalConfig.maxRetries = config.maxRetries ∧
        w.globalConfig.clientCertPath = lastSet ((configsOf events).map (·.clientCertPath)) none ∧
        w.globalConfig.clientKeyPath = lastSet ((configsOf events).map (·.clientKeyPath)) none := by
    have hg := World.run_globalConfig events hw
    rw [foldlM_validationSetConfig, hlast] at hg
    split_ifs at hg
    rw [← Option.some.inj hg]
    exact ⟨rfl, rfl, rfl, rfl⟩
  have hinv := World.certsFrom_run events World.allLive_initial hw
  obtain ⟨out, hcall⟩ := World.step_curlValidationEnhanced hcall
  obtain ⟨-, ⟨ht, -⟩ | ⟨e, p, handle, set, last, storeAt, he, hp, horig, hs, ht, -⟩⟩ :=
    curlValidationEnhanced_frame hcall
  · simp [ht] at htransfer
  rw [ht] at htransfer
  obtain ⟨⟩ := List.append_cancel_left htransfer
  cases he; cases hp
  have hh : CertsFrom w.globalConfig handle :=
    horig.elim (· ▸ certsFrom_fresh _) fun ⟨c, hc⟩ => hinv c handle hc
  obtain ⟨hcert, hkey⟩ := certs_setupRequest hh hs
  obtain ⟨baseUrl, hb, rfl⟩ := setupRequest_eq_some hs
  obtain ⟨⟩ := hbase.symm.trans hb
  exact ⟨hnull, rfl, rfl, rfl, congrArg some htimeout, hretries, hcert.trans hcertCfg,
    hkey.trans hkeyCfg⟩

theorem transfer_uses_effective_config_after_cleared_cert :
    ∃ w w' t,
      World.initial.run [.validationSetConfig
          { initialGlobalConfig with baseUrl := none, clientCertPath := some (ascii "client.pem") },
        .validationSetConfig { initialGlobalConfig with baseUrl := none }] = some w ∧
      (configsOf [.validationSetConfig
          { initialGlobalConfig with baseUrl := none, clientCertPath := some (ascii "client.pem") },
        .validationSetConfig { initialGlobalConfig with baseUrl := none }]).getLast? =
        some { initialGlobalConfig with baseUrl := none } ∧
      w.step (.curlValidationEnhanced true (some (ascii "validations/accounts")) (some (ascii "{}"))
        false ⟨true, fun _ => ⟨.ok, 200⟩, 0, 0, 0, 0⟩) = some w' ∧
      w'.transfers = w.transfers ++ [t] ∧
      t.options.sslCert = some (ascii "client.pem") ∧ t.maxRetries = 3 := by
  have h := transfer_uses_effective_config [.validationSetConfig
      { initialGlobalConfig with baseUrl := none, clientCertPath := some (ascii "client.pem") },
    .validationSetConfig { initialGlobalConfig with baseUrl := none }]
    { initialGlobalConfig with baseUrl := none } true false (ascii "validations/accounts")
    (some (ascii "{}")) ⟨true, fun _ => ⟨.ok, 200⟩, 0, 0, 0, 0⟩ _ _ _ rfl rfl rfl rfl
  exact ⟨_, _, _, rfl, rfl, rfl, rfl, h.2.2.2.2.2.2.1, h.2.2.2.2.2.1⟩

/-- A configuration whose certificate path is `NULL` does not take the certificate away: after
`validation_set_config` with a certificate and then with the defaults, both with a `NULL`
`base_url`, the transfer still presents the certificate. -/
theorem cleared_client_cert_still_sent :
    (World.initial.run [.validationSetConfig
        { initialGlobalConfig with baseUrl := none, clientCertPath := some (ascii "client.pem") },
      .validationSetConfig { initialGlobalConfig with baseUrl := none },
      .curlValidationEnhanced true (some (ascii "validations/accounts")) (some (ascii "{}")) false
        ⟨true, fun _ => ⟨.ok, 200⟩, 0, 0, 0, 0⟩]).map (fun w => w.transfers.map (·.options.sslCert)) =
      some [some (ascii "client.pem")] := by
  decide

/-! ### What a call that performs a transfer returns -/

/-- **Return code, cache and error report.** On every run from the initial state, a call that
misses the cache and obtains a live connection (a handle `curl_easy_cleanup` has not destroyed),
with `max_retries ≥ 1`, runs to its end. It makes at least one attempt and returns the `CURLcode` of
the last one, whatever its HTTP status. It stores `"success"` under the cache key exactly when that
attempt succeeded with a 2xx status, and leaves `*error` untouched exactly when `error` is `NULL` or
it did; otherwise it fills it with the status (after `CURLE_OK`) or the `CURLcode`. -/
theorem transfer_result_and_report (events : List Event) (w w₀ w₁ : World)
    (endpoint payload : Bytes) (error : Bool) (io : Transfer) (connection : Handle)
    (hw : World.initial.run events = some w) (hretries : 1 ≤ w.globalConfig.maxRetries)
    (hmiss : w.cachedResponse io.lookupAt (cacheKey endpoint payload) = (none, w₀))
    (hacq : w₀.acquire io.easyInit = some (some connection, w₁))
    (hlive : w₁.easy connection ≠ none) :
    let attempts := (validationRetryWithBackoff io.transport w.globalConfig.maxRetries).attempts
    let last := io.transport (attempts - 1)
    ∃ w' res report,
      curlValidationEnhanced w true (some endpoint) (some payload) error io = some (w', res, report) ∧
      0 < attempts ∧ res = last.code ∧
      w'.cacheHead =
        (if res = .ok ∧ 200 ≤ last.responseCode ∧ last.responseCode < 300 then
          cacheResponse w.globalConfig.enableCaching io.storeAt (cacheKey endpoint payload)
            (ascii "success") w₀.cacheHead
        else w₀.cacheHead) ∧
      (report = none ↔ error = false ∨ res = .ok ∧ 200 ≤ last.responseCode ∧ last.responseCode < 300) ∧
      ∀ v, report = some v → v.code = if res = .ok then last.responseCode else res.val := by
  intro attempts last
  obtain rfl : w₀ = _ := (congrArg Prod.snd hmiss).symm
  have hg₁ := (World.acquire_frame hacq).1
  have hb₁ := ((World.bounded_run events World.bounded_initial hw).cachedResponse _ _).acquire hacq
  have hdef : performRequest w₁ connection endpoint payload (cacheKey endpoint payload) error io ≠
      none :=
    hb₁.performRequest_ne_none hlive
      (by rw [hg₁]; exact Option.ne_none_iff_exists.mpr ⟨_, (World.baseUrl_run hw).2.symm⟩)
      (hg₁ ▸ hretries)
  obtain ⟨⟨w', res, report⟩, hp⟩ := Option.ne_none_iff_exists'.mp hdef
  refine ⟨w', res, report, (curlValidationEnhanced_of_acquire hmiss hacq).trans hp, ?_⟩
  obtain ⟨-, -, -, -, hpos, hres, -, hcache, hreport, -⟩ := performRequest_result hp
  rw [hg₁] at hpos hres hcache hreport
  rw [World.acquire_cacheHead hacq] at hcache hreport
  subst hres
  have hspec := cacheOrReport_spec w.globalConfig.enableCaching error io.storeAt
    (cacheKey endpoint payload) last.code last.responseCode
    (w.cachedResponse io.lookupAt (cacheKey endpoint payload)).2.cacheHead
  exact ⟨hpos, rfl, hcache.trans hspec.1, hreport ▸ hspec.2⟩

theorem transfer_result_and_report_404 :
    ∃ w₀ w₁ w' res report,
      World.initial.cachedResponse 0 (cacheKey (ascii "validations/accounts") (ascii "{}")) =
        (none, w₀) ∧
      w₀.acquire true = some (some 0, w₁) ∧
      curlValidationEnhanced World.initial true (some (ascii "validations/accounts"))
        (some (ascii "{}")) true ⟨true, fun _ => ⟨.ok, 404⟩, 0, 0, 0, 0⟩ = some (w', res, report) ∧
      res = .ok ∧ report ≠ none := by
  obtain ⟨w', res, report, h, -, hres, -, hreport, -⟩ := transfer_result_and_report [] World.initial _
    _ (ascii "validations/accounts") (ascii "{}") true ⟨true, fun _ => ⟨.ok, 404⟩, 0, 0, 0, 0⟩ 0 rfl
    (by decide) rfl rfl (by simp [World.acquire, getConnectionFromPool, ConnectionPool.initial, World.initial])
  exact ⟨_, _, w', res, report, rfl, rfl, h, hres, fun hn => by simpa using hreport.mp hn⟩

/-- A first request that gets a 404 makes the call return `CURLE_OK` while it fills `*error`. -/
theorem non_2xx_status_returns_ok :
    (curlValidationEnhanced World.initial true (some (ascii "validations/accounts"))
        (some (ascii "{}")) true ⟨true, fun _ => ⟨.ok, 404⟩, 0, 0, 0, 0⟩).map (·.2) =
      some (.ok, some ⟨404, .text "HTTP 404", some "API returned non-200 status"⟩) := by
  decide

end CurlValidation
