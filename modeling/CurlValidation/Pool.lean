import CurlValidation.Config

/-!
# The connection pool

`connection_pool` keeps up to `max_connections` idle handles in an array `malloc`ed on the first
return. `get_connection_from_pool` hands out the handle at `current_index` round-robin, without
taking it out of the array; `return_connection_to_pool` writes the handle into the next free slot,
or destroys it when the array is full or pooling is off; `validation_cleanup` destroys the slots
`[0, pool_size)`, frees the array and zeroes `pool_size`, and leaves `current_index` as it was.
-/

namespace CurlValidation

/-- `connection_pool_t`. -/
structure ConnectionPool where
  connections : Option (CArray Handle)
  poolSize : Int
  currentIndex : Int
  maxConnections : Int

namespace ConnectionPool

/-- The static `connection_pool`. -/
def initial : ConnectionPool := ⟨none, 0, 0, 10⟩

/-- `connections[i]`: `none` when the array is `NULL`, or the read is not determined. -/
def slot (pool : ConnectionPool) (i : Int) : Option Handle := pool.connections.bind (·.read i)

end ConnectionPool

/-- What `get_connection_from_pool` returns. -/
inductive Acquired
  /-- The result of a new `curl_easy_init()`. -/
  | easyInit
  /-- `connections[current_index]`, `none` when that read is not determined. -/
  | pooled (h : Option Handle)
deriving DecidableEq, Repr

/-- `get_connection_from_pool()`. -/
def getConnectionFromPool (pooling : Bool) (pool : ConnectionPool) :
    Acquired × ConnectionPool :=
  if pooling = false ∨ pool.poolSize = 0 then (.easyInit, pool)
  else (.pooled (pool.slot pool.currentIndex),
    { pool with currentIndex := (pool.currentIndex + 1).tmod pool.poolSize })

/-- Where `return_connection_to_pool` leaves its handle. -/
inductive Release
  /-- Written into the next slot. -/
  | pooled (pool : ConnectionPool)
  /-- Passed to `curl_easy_cleanup`; the pool is unchanged. -/
  | cleanedUp

/-- `return_connection_to_pool(curl)`; `none` when the write `connections[pool_size++]` is out of
bounds. -/
def returnConnectionToPool (pooling : Bool) (curl : Handle) (pool : ConnectionPool) :
    Option Release :=
  if pooling = false then some .cleanedUp
  else if pool.poolSize < pool.maxConnections then
    ((pool.connections.getD (CArray.alloc pool.maxConnections.toNat)).write pool.poolSize curl).map
      fun a => .pooled { pool with connections := some a, poolSize := pool.poolSize + 1 }
  else some .cleanedUp

/-- The pool half of `validation_cleanup`: the handles read from `connections[0 .. pool_size)` for
`curl_easy_cleanup`, and the pool after `free`. -/
def poolCleanup (pool : ConnectionPool) : List (Option Handle) × ConnectionPool :=
  ((List.range pool.poolSize.toNat).map fun i : Nat => pool.slot i,
    { pool with connections := none, poolSize := 0 })

/-! ### One lemma per operation -/

section Operations

variable {pooling : Bool} {pool pool' : ConnectionPool} {curl : Handle}

theorem getConnectionFromPool_cases (a : Acquired)
    (h : getConnectionFromPool pooling pool = (a, pool')) :
    (a = .easyInit ∧ pool' = pool ∧ (pooling = false ∨ pool.poolSize = 0)) ∨
      (a = .pooled (pool.slot pool.currentIndex) ∧ pooling = true ∧ pool.poolSize ≠ 0 ∧
        pool' = { pool with currentIndex := (pool.currentIndex + 1).tmod pool.poolSize }) := by
  unfold getConnectionFromPool at h
  split_ifs at h with hc <;> cases h
  · exact .inl ⟨rfl, rfl, hc⟩
  · simp only [not_or, Bool.not_eq_false] at hc
    exact .inr ⟨rfl, hc.1, hc.2, rfl⟩

theorem returnConnectionToPool_pooled
    (h : returnConnectionToPool pooling curl pool = some (.pooled pool')) :
    pooling = true ∧ pool.poolSize < pool.maxConnections ∧
      ∃ a, (pool.connections.getD (CArray.alloc pool.maxConnections.toNat)).write pool.poolSize curl
        = some a ∧ pool' = { pool with connections := some a, poolSize := pool.poolSize + 1 } := by
  unfold returnConnectionToPool at h
  split_ifs at h with hoff hlt
  · cases h
  · obtain ⟨a, ha, he⟩ := Option.map_eq_some'.mp h
    cases he
    exact ⟨by simpa using hoff, hlt, a, ha, rfl⟩
  · cases h

theorem returnConnectionToPool_ne_none (hsize : 0 ≤ pool.poolSize)
    (hlen : ∀ a, pool.connections = some a → a.length = pool.maxConnections.toNat) :
    returnConnectionToPool pooling curl pool ≠ none := by
  unfold returnConnectionToPool
  split_ifs with hoff hlt
  · simp
  · have hin : (pool.connections.getD (CArray.alloc pool.maxConnections.toNat)).InBounds
        pool.poolSize := by
      cases hc : pool.connections with
      | none => simp [CArray.InBounds]; omega
      | some a => simp [CArray.InBounds, hlen a hc]; omega
    simp [CArray.write_eq_some hin]
  · simp

end Operations

/-! ### The pool under concurrent requests

Each request acquires one handle and later returns it; between any two atomic steps other
requests, `validation_cleanup` and changes of `enable_connection_pooling` may come. Besides the
pool, the state keeps (as ghosts) the handle each request in flight holds and the handles passed
to `curl_easy_cleanup`. A step is `none` when it is not possible (a release by a request that holds
nothing) or its behaviour is undefined (an indeterminate read or write, a second `curl_easy_cleanup`
of a handle, or the `free` of the string-literal `base_url` that ends `validation_cleanup`). -/

/-- The pool, the `enable_connection_pooling` toggle, the handles made so far, and the ghosts. -/
structure PoolWorld where
  pool : ConnectionPool
  pooling : Bool
  /-- `curl_easy_init` has made the handles `0, ..., created - 1`. -/
  created : Nat
  /-- The request in flight and the handle it holds. -/
  borrowed : List (Nat × Handle)
  /-- The handles passed to `curl_easy_cleanup`, latest first. -/
  destroyed : List Handle

inductive PoolEvent
  | acquire (req : Nat)
  | release (req : Nat)
  | cleanup
  | setPooling (enable : Bool)
deriving DecidableEq, Repr

namespace PoolWorld

def initial : PoolWorld := ⟨ConnectionPool.initial, true, 0, [], []⟩

/-- The handle request `req` holds. -/
def holding (w : PoolWorld) (req : Nat) : Option Handle := (w.borrowed.find? (·.1 = req)).map (·.2)

/-- `curl_easy_cleanup` of each handle in turn, onto the destroyed ones; undefined on a handle
already destroyed. -/
def destroyEach (destroyed : List Handle) : List Handle → Option (List Handle)
  | [] => some destroyed
  | h :: hs => if h ∈ destroyed then none else destroyEach (h :: destroyed) hs

def step (w : PoolWorld) : PoolEvent → Option PoolWorld
  | .acquire req =>
    match getConnectionFromPool w.pooling w.pool with
    | (.easyInit, pool) =>
      some { w with pool, created := w.created + 1, borrowed := (req, w.created) :: w.borrowed }
    | (.pooled (some h), pool) => some { w with pool, borrowed := (req, h) :: w.borrowed }
    | (.pooled none, _) => none
  | .release req => do
    let h ← w.holding req
    let borrowed := w.borrowed.filter (·.1 ≠ req)
    match ← returnConnectionToPool w.pooling h w.pool with
    | .pooled pool => some { w with pool, borrowed }
    | .cleanedUp => do
      let destroyed ← destroyEach w.destroyed [h]
      some { w with borrowed, destroyed }
  | .cleanup => do
    let (handles, pool) := poolCleanup w.pool
    let destroyed ← destroyEach w.destroyed (← handles.allSome)
    freeBaseUrl
    some { w with pool, destroyed }
  | .setPooling enable => some { w with pooling := enable }

def run : PoolWorld → List PoolEvent → Option PoolWorld
  | w, [] => some w
  | w, e :: es => (w.step e).bind (run · es)

/-- `validation_cleanup` never returns: it destroys the idle handles, frees the array, and then
frees the string-literal `base_url`. -/
theorem step_cleanup (w : PoolWorld) : w.step .cleanup = none := by
  simp only [step, freeBaseUrl, Option.bind_eq_bind]
  cases (poolCleanup w.pool).1.allSome <;> simp

/-- The handles in the idle slots `connections[0 .. pool_size)`. -/
def idle (w : PoolWorld) : List (Option Handle) := (poolCleanup w.pool).1

end PoolWorld

end CurlValidation
