import CurlValidation.Basic

/-!
# The configuration store

`global_config` starts from the static defaults and is changed only by `validation_set_config`,
which copies the numbers and toggles of its argument and each of the three strings only when the
argument's string is non-`NULL`: a `NULL` string keeps the value already there.

A non-`NULL` `base_url` is first made room for by `free(global_config.base_url)`. The static
initialiser points `base_url` at a string literal, and the only assignment to it follows that very
`free`, so every `free` of `base_url` (here and in `validation_cleanup`) frees the literal: the
behaviour is undefined, and the step is `none`. The certificate and key start `NULL` and only ever
hold `strdup` copies, so their `free`s are defined.
-/

namespace CurlValidation

/-- `validation_config_t`. -/
structure ValidationConfig where
  baseUrl : Option Bytes
  timeout : Int
  maxRetries : Int
  enableCaching : Bool
  enableMetrics : Bool
  enableConnectionPooling : Bool
  clientCertPath : Option Bytes
  clientKeyPath : Option Bytes
deriving DecidableEq, Repr

/-- The string literal the static `global_config` points `base_url` at. -/
def defaultBaseUrl : Bytes := ascii "https://api-mock.payments.jpmorgan.com/tsapi/v2"

/-- The static `global_config`. -/
def initialGlobalConfig : ValidationConfig where
  baseUrl := some defaultBaseUrl
  timeout := 30
  maxRetries := 3
  enableCaching := true
  enableMetrics := true
  enableConnectionPooling := true
  clientCertPath := none
  clientKeyPath := none

/-- `free(global_config.base_url)`: it frees the string literal `base_url` holds in every state the
program reaches, which is undefined. -/
def freeBaseUrl : Option Unit := none

/-- `validation_set_config(config)` applied to `global_config`. -/
def validationSetConfig (globalConfig config : ValidationConfig) : Option ValidationConfig := do
  if config.baseUrl.isSome then freeBaseUrl
  some
    { baseUrl := config.baseUrl.or globalConfig.baseUrl
      timeout := config.timeout
      maxRetries := config.maxRetries
      enableCaching := config.enableCaching
      enableMetrics := config.enableMetrics
      enableConnectionPooling := config.enableConnectionPooling
      clientCertPath := config.clientCertPath.or globalConfig.clientCertPath
      clientKeyPath := config.clientKeyPath.or globalConfig.clientKeyPath }

theorem validationSetConfig_eq_none {globalConfig config : ValidationConfig}
    (h : config.baseUrl ≠ none) : validationSetConfig globalConfig config = none := by
  obtain ⟨url, hurl⟩ := Option.ne_none_iff_exists'.mp h
  simp [validationSetConfig, hurl, freeBaseUrl]

/-- With a `NULL` `base_url`, the call keeps `base_url` and takes everything else from `config`. -/
theorem validationSetConfig_of_baseUrl {globalConfig config : ValidationConfig}
    (h : config.baseUrl = none) :
    validationSetConfig globalConfig config =
      some { config with
        baseUrl := globalConfig.baseUrl
        clientCertPath := config.clientCertPath.or globalConfig.clientCertPath
        clientKeyPath := config.clientKeyPath.or globalConfig.clientKeyPath } := by
  simp [validationSetConfig, h]

theorem validationSetConfig_eq_some {globalConfig config g : ValidationConfig}
    (h : validationSetConfig globalConfig config = some g) :
    config.baseUrl = none ∧
      g = { config with
        baseUrl := globalConfig.baseUrl
        clientCertPath := config.clientCertPath.or globalConfig.clientCertPath
        clientKeyPath := config.clientKeyPath.or globalConfig.clientKeyPath } := by
  by_cases hb : config.baseUrl = none
  · exact ⟨hb, Option.some.inj (h.symm.trans (validationSetConfig_of_baseUrl hb))⟩
  · cases (validationSetConfig_eq_none hb).symm.trans h

/-! ### After a sequence of updates -/

/-- The last non-`NULL` value among `values`, or `default` when there is none. -/
def lastSet {α : Type} (values : List (Option α)) (default : Option α) : Option α :=
  (values.filterMap id).getLast?.or default

theorem lastSet_concat {α : Type} (values : List (Option α)) (value default : Option α) :
    lastSet (values ++ [value]) default = value.or (lastSet values default) := by
  cases value <;> simp [lastSet, List.filterMap_append, List.getLast?_append]

/-- What `global_config` holds after `validation_set_config(c_1)`, ..., `validation_set_config(c_m)`:
nothing defined unless every `base_url` is `NULL`, and then the `base_url` it started with, the
numbers and toggles of `c_m` (the defaults when `m = 0`), and the certificate and the key the last
non-`NULL` ones given, or their defaults. -/
theorem foldlM_validationSetConfig (configs : List ValidationConfig) (start : ValidationConfig) :
    configs.foldlM validationSetConfig start =
      if configs.all (·.baseUrl.isNone) then
        some
          { baseUrl := start.baseUrl
            timeout := ((configs.getLast?.map (·.timeout)).getD start.timeout)
            maxRetries := ((configs.getLast?.map (·.maxRetries)).getD start.maxRetries)
            enableCaching := ((configs.getLast?.map (·.enableCaching)).getD start.enableCaching)
            enableMetrics := ((configs.getLast?.map (·.enableMetrics)).getD start.enableMetrics)
            enableConnectionPooling :=
              ((configs.getLast?.map (·.enableConnectionPooling)).getD start.enableConnectionPooling)
            clientCertPath := lastSet (configs.map (·.clientCertPath)) start.clientCertPath
            clientKeyPath := lastSet (configs.map (·.clientKeyPath)) start.clientKeyPath }
      else none := by
  induction configs using List.reverseRecOn with
  | nil => simp [lastSet]
  | append_singleton configs config ih =>
    rw [List.foldlM_append, ih]
    by_cases hall : configs.all (·.baseUrl.isNone)
    · cases hb : config.baseUrl with
      | none =>
        simp [hall, hb, validationSetConfig_of_baseUrl hb, lastSet_concat]
      | some url =>
        simp [hall, hb, validationSetConfig_eq_none (hb ▸ Option.some_ne_none url)]
    · simp [hall]

end CurlValidation
