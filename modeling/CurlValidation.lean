import CurlValidation.Basic
import CurlValidation.Retry
import CurlValidation.Pool
import CurlValidation.Cache
import CurlValidation.Lru
import CurlValidation.Config
import CurlValidation.Metrics
import CurlValidation.Enhanced
import CurlValidation.Proof.PoolRuns
import CurlValidation.Proof.CacheBounds
import CurlValidation.Proof.CacheRefinement
import CurlValidation.Proof.MetricsLog
import CurlValidation.Proof.WorldBounds
import CurlValidation.Proof.RequestLifecycle
import CurlValidation.Proof.CacheRuns
import CurlValidation.Dynbuf
import CurlValidation.Context
import CurlValidation.JsonEscape
import CurlValidation.Json
import CurlValidation.Payload
import CurlValidation.Proof.ContextRuns
import CurlValidation.Proof.EscapeString
import CurlValidation.Proof.JsonRoundTrip
import CurlValidation.Proof.JsonText
import CurlValidation.Proof.PayloadJson
import CurlValidation.Proof.PayloadBuffer
import CurlValidation.Proof.ContextOptions
