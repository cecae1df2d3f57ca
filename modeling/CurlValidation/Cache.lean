import CurlValidation.Basic

/-!
# The response cache

A singly linked list from `cache_head`, most recently stored or hit first. `get_cached_response`
walks to the first entry with the key: a live one is unlinked and relinked at the head, an expired
one is unlinked and freed. `cache_response` counts up to 100 entries, unlinks the last one when it
reached 100, and links a new entry at the head; it does not look for an entry with the same key.
-/

namespace CurlValidation

/-- `cache_entry_t`. -/
structure CacheEntry where
  key : Bytes
  response : Bytes
  expiry : Int
deriving DecidableEq, Repr

/-- `CACHE_TTL`, in seconds. -/
def cacheTtl : Int := 300

/-- The walk of `get_cached_response`: the entries before the first one with `key`, that entry,
and the entries after it. -/
def findKey (key : Bytes) : List CacheEntry → Option (List CacheEntry × CacheEntry × List CacheEntry)
  | [] => none
  | e :: rest =>
    if e.key = key then some ([], e, rest)
    else (findKey key rest).map fun (passed, current, after) => (e :: passed, current, after)

/-- `get_cached_response(key)` at time `now`: the copy of the response on a hit, and the list
after the call. -/
def getCachedResponse (enableCaching : Bool) (now : Int) (key : Bytes) (cache : List CacheEntry) :
    Option Bytes × List CacheEntry :=
  if enableCaching = false then (none, cache)
  else
    match findKey key cache with
    | none => (none, cache)
    | some (passed, current, after) =>
      if now < current.expiry then (some current.response, current :: (passed ++ after))
      else (none, passed ++ after)

/-- The counting loop of `cache_response`, which stops at 100. -/
def countEntries (cache : List CacheEntry) : Nat := (cache.take 100).length

/-- "Remove last entry": the last entry is unlinked when it has a predecessor. -/
def removeLastEntry (cache : List CacheEntry) : List CacheEntry :=
  if 2 ≤ cache.length then cache.dropLast else cache

/-- `cache_response(key, response)` at time `now`. -/
def cacheResponse (enableCaching : Bool) (now : Int) (key response : Bytes)
    (cache : List CacheEntry) : List CacheEntry :=
  if enableCaching = false then cache
  else ⟨key, response, now + cacheTtl⟩ ::
    if 100 ≤ countEntries cache then removeLastEntry cache else cache

/-- A call on the cache: the two functions with the `enable_caching` value they read, and the
cache half of `validation_cleanup`. -/
inductive CacheOp
  | getCachedResponse (enableCaching : Bool) (now : Int) (key : Bytes)
  | cacheResponse (enableCaching : Bool) (now : Int) (key response : Bytes)
  | validationCleanup
deriving DecidableEq, Repr

/-- One call: what a lookup returns (`none` for the other calls), and the list after it. -/
def CacheOp.apply : CacheOp → List CacheEntry → Option Bytes × List CacheEntry
  | .getCachedResponse enableCaching now key, cache =>
    CurlValidation.getCachedResponse enableCaching now key cache
  | .cacheResponse enableCaching now key response, cache =>
    (none, CurlValidation.cacheResponse enableCaching now key response cache)
  | .validationCleanup, _ => (none, [])

/-- A sequence of calls: what each returned, and the final list. -/
def runCacheOps : List CacheOp → List CacheEntry → List (Option Bytes) × List CacheEntry
  | [], cache => ([], cache)
  | op :: ops, cache =>
    let (out, cache) := op.apply cache
    let (outs, cache) := runCacheOps ops cache
    (out :: outs, cache)

/-- How one validation request uses the cache when requests run one at a time:
`get_cached_response(key)` at `lookupAt` and, after a miss, `cache_response(key, response)` at
`storeAt` when the transfer succeeded (`store = some (response, storeAt)`). -/
structure CacheRequest where
  enableCaching : Bool
  key : Bytes
  lookupAt : Int
  store : Option (Bytes × Int)
deriving DecidableEq, Repr

/-- A request, or the cache half of `validation_cleanup`, between requests. The whole of
`validation_cleanup` ends by freeing the string-literal `base_url`, so no run of the program goes on
past it; runs of uses include the program's. -/
inductive CacheUse
  | request (r : CacheRequest)
  | validationCleanup
deriving DecidableEq, Repr

/-- The calls a use makes. -/
def CacheUse.ops (cache : List CacheEntry) : CacheUse → List CacheOp
  | .request r =>
    .getCachedResponse r.enableCaching r.lookupAt r.key ::
      match (getCachedResponse r.enableCaching r.lookupAt r.key cache).1, r.store with
      | none, some (response, storeAt) => [.cacheResponse r.enableCaching storeAt r.key response]
      | _, _ => []
  | .validationCleanup => [.validationCleanup]

/-- One use: what its lookup returned, and the list after it. -/
def CacheUse.apply (u : CacheUse) (cache : List CacheEntry) : Option Bytes × List CacheEntry :=
  match u with
  | .request r =>
    match getCachedResponse r.enableCaching r.lookupAt r.key cache, r.store with
    | (none, cache), some (response, storeAt) =>
      (none, cacheResponse r.enableCaching storeAt r.key response cache)
    | result, _ => result
  | .validationCleanup => (none, [])

/-- A use is the sequence of calls `CacheUse.ops` names: its lookup's answer comes first, and the
list after the calls is the list after the use. -/
theorem runCacheOps_ops (u : CacheUse) (cache : List CacheEntry) :
    (runCacheOps (u.ops cache) cache).1.headD none = (u.apply cache).1 ∧
      (runCacheOps (u.ops cache) cache).2 = (u.apply cache).2 := by
  cases u with
  | request r =>
    obtain ⟨en, key, t, store⟩ := r
    rcases hg : getCachedResponse en t key cache with ⟨_ | v, cache'⟩ <;>
      rcases store with _ | ⟨response, storeAt⟩ <;>
      simp [CacheUse.ops, CacheUse.apply, runCacheOps, CacheOp.apply, hg]
  | validationCleanup => simp [CacheUse.ops, CacheUse.apply, runCacheOps, CacheOp.apply]

/-- A run of uses from a list: what each lookup returned, and the final list. -/
def runCacheUses : List CacheUse → List CacheEntry → List (Option Bytes) × List CacheEntry
  | [], cache => ([], cache)
  | u :: uses, cache =>
    let (out, cache) := u.apply cache
    let (outs, cache) := runCacheUses uses cache
    (out :: outs, cache)

/-! ### One lemma per function -/

section Lemmas

variable {key : Bytes} {cache : List CacheEntry}

theorem findKey_eq_some {passed after : List CacheEntry} {current : CacheEntry} :
    ∀ {cache : List CacheEntry}, findKey key cache = some (passed, current, after) →
      cache = passed ++ current :: after ∧ current.key = key ∧ ∀ e ∈ passed, e.key ≠ key
  | [], h => by cases h
  | e :: rest, h => by
    unfold findKey at h
    split_ifs at h with he
    · cases h; exact ⟨rfl, he, by simp⟩
    · obtain ⟨⟨passed', current', after'⟩, hf, heq⟩ := Option.map_eq_some'.mp h
      cases heq
      obtain ⟨rfl, hk, hp⟩ := findKey_eq_some hf
      exact ⟨rfl, hk, by simpa [he] using hp⟩

theorem findKey_eq_none : ∀ {cache : List CacheEntry}, findKey key cache = none →
    ∀ e ∈ cache, e.key ≠ key
  | [], _ => by simp
  | e :: rest, h => by
    unfold findKey at h
    split_ifs at h with he
    simp only [Option.map_eq_none'] at h
    simpa [he] using findKey_eq_none h

theorem findKey_sublist {passed after : List CacheEntry} {current : CacheEntry}
    (hf : findKey key cache = some (passed, current, after)) :
    List.Sublist (passed ++ after) cache :=
  (findKey_eq_some hf).1 ▸ (List.sublist_cons_self current after).append_left passed

/-- With distinct keys, no entry but the one found has the key. -/
theorem findKey_others_ne {passed after : List CacheEntry} {current : CacheEntry}
    (hf : findKey key cache = some (passed, current, after))
    (hn : (cache.map CacheEntry.key).Nodup) : ∀ x ∈ passed ++ after, x.key ≠ key := by
  obtain ⟨rfl, hk, hp⟩ := findKey_eq_some hf
  simp only [List.map_append, List.map_cons, List.nodup_append, List.nodup_cons] at hn
  intro x hx
  rcases List.mem_append.mp hx with hx | hx
  · exact hp x hx
  · exact fun hx' => hn.2.1.1 (List.mem_map.mpr ⟨x, hx, hx'.trans hk.symm⟩)

/-- What `get_cached_response` does: nothing when caching is off or the key is absent; a hit
relinks the entry at the head, an expired entry is unlinked. -/
theorem getCachedResponse_cases (enableCaching : Bool) (now : Int) (key : Bytes)
    (cache : List CacheEntry) :
    (getCachedResponse enableCaching now key cache = (none, cache) ∧
        (enableCaching = false ∨ findKey key cache = none)) ∨
      ∃ passed current after, enableCaching = true ∧
        findKey key cache = some (passed, current, after) ∧
        ((now < current.expiry ∧ getCachedResponse enableCaching now key cache =
            (some current.response, current :: (passed ++ after))) ∨
          (current.expiry ≤ now ∧
            getCachedResponse enableCaching now key cache = (none, passed ++ after))) := by
  unfold getCachedResponse
  cases enableCaching with
  | false => exact .inl ⟨rfl, .inl rfl⟩
  | true =>
    rw [if_neg (by decide)]
    cases hf : findKey key cache with
    | none => simp
    | some r =>
      obtain ⟨passed, current, after⟩ := r
      refine .inr ⟨passed, current, after, rfl, rfl, ?_⟩
      by_cases hlt : now < current.expiry
      · exact .inl ⟨hlt, by simp [hlt]⟩
      · exact .inr ⟨by omega, by simp [hlt]⟩

/-- `get_cached_response` only unlinks and relinks: every entry after it was there before. -/
theorem mem_getCachedResponse {enableCaching : Bool} {now : Int} {x : CacheEntry}
    (hx : x ∈ (getCachedResponse enableCaching now key cache).2) : x ∈ cache := by
  rcases getCachedResponse_cases enableCaching now key cache with
    ⟨h, -⟩ | ⟨passed, current, after, -, hf, ⟨-, h⟩ | ⟨-, h⟩⟩ <;> rw [h] at hx
  · exact hx
  all_goals
    obtain ⟨rfl, -, -⟩ := findKey_eq_some hf
    simp only [List.mem_cons, List.mem_append] at hx ⊢
    tauto

/-- A hit returns the response of an entry with the key that has not expired. -/
theorem getCachedResponse_hit {enableCaching : Bool} {now : Int} {response : Bytes}
    (h : (getCachedResponse enableCaching now key cache).1 = some response) :
    ∃ entry ∈ cache, entry.key = key ∧ now < entry.expiry ∧ entry.response = response := by
  rcases getCachedResponse_cases enableCaching now key cache with
    ⟨h', -⟩ | ⟨passed, current, after, -, hf, ⟨hlt, h'⟩ | ⟨-, h'⟩⟩ <;> rw [h'] at h
  · cases h
  · obtain ⟨rfl, hk, -⟩ := findKey_eq_some hf
    exact ⟨current, by simp, hk, hlt, Option.some.inj h⟩
  · cases h

theorem removeLastEntry_sublist (cache : List CacheEntry) :
    List.Sublist (removeLastEntry cache) cache := by
  unfold removeLastEntry
  split_ifs
  · exact List.dropLast_sublist cache
  · exact List.Sublist.refl cache

/-- `cache_response` adds its entry and otherwise only drops one. -/
theorem mem_cacheResponse {enableCaching : Bool} {now : Int} {response : Bytes} {x : CacheEntry}
    (hx : x ∈ cacheResponse enableCaching now key response cache) :
    x ∈ cache ∨ x = ⟨key, response, now + cacheTtl⟩ := by
  unfold cacheResponse at hx
  split_ifs at hx
  · exact .inl hx
  all_goals
    rcases List.mem_cons.mp hx with rfl | hx
    · exact .inr rfl
    · first | exact .inl hx | exact .inl ((removeLastEntry_sublist cache).subset hx)

theorem countEntries_eq_min (cache : List CacheEntry) : countEntries cache = min cache.length 100 := by
  simp [countEntries, Nat.min_comm]

theorem length_removeLastEntry (cache : List CacheEntry) :
    (removeLastEntry cache).length = if 2 ≤ cache.length then cache.length - 1 else cache.length := by
  unfold removeLastEntry; split_ifs <;> simp

theorem getCachedResponse_length_le (enableCaching : Bool) (now : Int) :
    (getCachedResponse enableCaching now key cache).2.length ≤ cache.length := by
  unfold getCachedResponse
  split
  · exact le_rfl
  · split
    · exact le_rfl
    · rename_i passed current after hf
      obtain ⟨rfl, -, -⟩ := findKey_eq_some hf
      split_ifs <;> simp
      omega

theorem cacheResponse_length_le (enableCaching : Bool) (now : Int) (response : Bytes)
    (h : cache.length ≤ 100) : (cacheResponse enableCaching now key response cache).length ≤ 100 := by
  unfold cacheResponse
  split_ifs with hoff hcount
  · exact h
  · rw [countEntries_eq_min] at hcount
    simp [length_removeLastEntry]; split_ifs <;> omega
  · rw [countEntries_eq_min] at hcount
    simp; omega

end Lemmas

end CurlValidation
