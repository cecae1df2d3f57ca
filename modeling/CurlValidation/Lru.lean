import CurlValidation.Cache

/-!
# The response cache as the spec describes it

An LRU map with absolute expiry: distinct keys ordered by recency, each bound to a value and the
time it expires. `store` binds a key for 300 seconds as the most recent, replacing an earlier
binding, then evicts the least recent key past 100; `lookup` returns a live value and makes its key
the most recent, drops an expired key, and misses an absent one. With caching off both do nothing.
The distinctness of keys is a field, so no operation can build a map that breaks it.
-/

namespace CurlValidation

/-- Distinct keys, most recent first, each with its value and expiry. -/
structure LruCache where
  entries : List (Bytes × Bytes × Int)
  distinct : (entries.map Prod.fst).Nodup

namespace LruCache

def empty : LruCache := ⟨[], List.nodup_nil⟩

/-- The bindings of every key but `key`. -/
def without (c : LruCache) (key : Bytes) : List (Bytes × Bytes × Int) :=
  c.entries.filter (·.1 ≠ key)

theorem nodup_without (c : LruCache) (key : Bytes) : ((c.without key).map Prod.fst).Nodup :=
  ((List.filter_sublist _).map _).nodup c.distinct

theorem nodup_cons_without (c : LruCache) (key : Bytes) (binding : Bytes × Int) :
    (((key, binding) :: c.without key).map Prod.fst).Nodup := by
  refine List.nodup_cons.mpr ⟨fun h => ?_, c.nodup_without key⟩
  obtain ⟨x, hx, hkey⟩ := List.mem_map.mp h
  simp [without, hkey] at hx

/-- `lookup(key)` at time `now`. -/
def lookup (enableCaching : Bool) (now : Int) (key : Bytes) (c : LruCache) :
    Option Bytes × LruCache :=
  if enableCaching = false then (none, c)
  else
    match c.entries.find? (·.1 = key) with
    | none => (none, c)
    | some (_, value, expiry) =>
      if now < expiry then
        (some value, ⟨(key, value, expiry) :: c.without key, c.nodup_cons_without key _⟩)
      else (none, ⟨c.without key, c.nodup_without key⟩)

/-- `store(key, value)` at time `now`. -/
def store (enableCaching : Bool) (now : Int) (key value : Bytes) (c : LruCache) : LruCache :=
  if enableCaching = false then c
  else if 100 < ((key, value, now + 300) :: c.without key).length then
    ⟨((key, value, now + 300) :: c.without key).dropLast,
      ((List.dropLast_sublist _).map _).nodup (c.nodup_cons_without key _)⟩
  else ⟨(key, value, now + 300) :: c.without key, c.nodup_cons_without key _⟩

/-- A call on the map, as `CacheOp.apply` is on the list. -/
def apply : CacheOp → LruCache → Option Bytes × LruCache
  | .getCachedResponse enableCaching now key, c => c.lookup enableCaching now key
  | .cacheResponse enableCaching now key value, c => (none, c.store enableCaching now key value)
  | .validationCleanup, _ => (none, empty)

def runOps : List CacheOp → LruCache → List (Option Bytes) × LruCache
  | [], c => ([], c)
  | op :: ops, c =>
    let (out, c) := apply op c
    let (outs, c) := runOps ops c
    (out :: outs, c)

/-- A use on the map, as `CacheUse.apply` is on the list. -/
def applyUse : CacheUse → LruCache → Option Bytes × LruCache
  | .request r, c =>
    match c.lookup r.enableCaching r.lookupAt r.key, r.store with
    | (none, c), some (value, storeAt) => (none, c.store r.enableCaching storeAt r.key value)
    | result, _ => result
  | .validationCleanup, _ => (none, empty)

def runUses : List CacheUse → LruCache → List (Option Bytes) × LruCache
  | [], c => ([], c)
  | u :: uses, c =>
    let (out, c) := applyUse u c
    let (outs, c) := runUses uses c
    (out :: outs, c)

end LruCache

end CurlValidation
