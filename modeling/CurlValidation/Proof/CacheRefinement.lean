import CurlValidation.Lru

/-!
# The list refines the LRU map, for requests made one at a time

The list from `cache_head` stands for the map whose bindings are its entries in the same order.
A lookup keeps that correspondence and answers as the map does, whatever the list holds, provided
its keys are distinct; a store keeps it when its key is not in the list. A request that stores only
after a miss on its key always stores an absent key, so along any run of such requests the list
answers every lookup as the map does.

A store of a key that is present, as two interleaved requests for one pair make, leaves a stale
second entry in one of the hundred places, and a hundred stores later the list has unlinked a key
the map still binds.
-/

namespace CurlValidation

/-- The binding an entry stands for. -/
def CacheEntry.binding (e : CacheEntry) : Bytes × Bytes × Int := (e.key, e.response, e.expiry)

/-- The list stands for the map: the same bindings in the same order. -/
def Represents (cache : List CacheEntry) (c : LruCache) : Prop :=
  cache.map CacheEntry.binding = c.entries

section Bindings

variable {key : Bytes} {cache : List CacheEntry}

theorem Represents.nodup {c : LruCache} (h : Represents cache c) :
    (cache.map CacheEntry.key).Nodup := by
  have := c.distinct
  rwa [← h, List.map_map] at this

theorem find?_binding_of_ne {l : List CacheEntry} (hk : ∀ x ∈ l, x.key ≠ key) :
    (l.map CacheEntry.binding).find? (·.1 = key) = none := by
  simpa [List.find?_eq_none, CacheEntry.binding] using hk

theorem filter_binding_of_ne {l : List CacheEntry} (hk : ∀ x ∈ l, x.key ≠ key) :
    (l.map CacheEntry.binding).filter (·.1 ≠ key) = l.map CacheEntry.binding :=
  List.filter_eq_self.mpr (by simpa [CacheEntry.binding] using hk)

theorem find?_binding {passed after : List CacheEntry} {current : CacheEntry}
    (hf : findKey key cache = some (passed, current, after)) :
    (cache.map CacheEntry.binding).find? (·.1 = key) = some current.binding := by
  obtain ⟨rfl, hk, hp⟩ := findKey_eq_some hf
  rw [List.map_append, List.find?_append, find?_binding_of_ne hp]
  simp [CacheEntry.binding, hk]

theorem filter_binding {passed after : List CacheEntry} {current : CacheEntry}
    (hf : findKey key cache = some (passed, current, after)) (hn : (cache.map CacheEntry.key).Nodup) :
    (cache.map CacheEntry.binding).filter (·.1 ≠ key) = (passed ++ after).map CacheEntry.binding := by
  have hk := findKey_others_ne hf hn
  obtain ⟨rfl, hck, -⟩ := findKey_eq_some hf
  have := filter_binding_of_ne hk
  simp only [List.map_append, List.filter_append] at this ⊢
  simpa [List.filter_cons, CacheEntry.binding, hck] using this

end Bindings

/-! ### One call at a time -/

section Simulation

variable {key : Bytes} {cache : List CacheEntry} {c : LruCache}

theorem Represents.lookup (h : Represents cache c) (enableCaching : Bool) (now : Int)
    (key : Bytes) :
    (getCachedResponse enableCaching now key cache).1 = (c.lookup enableCaching now key).1 ∧
      Represents (getCachedResponse enableCaching now key cache).2
        (c.lookup enableCaching now key).2 := by
  rcases getCachedResponse_cases enableCaching now key cache with
    ⟨hg, hoff⟩ | ⟨passed, current, after, rfl, hf, ⟨hlt, hg⟩ | ⟨hge, hg⟩⟩
  · rw [hg]
    cases enableCaching with
    | false => exact ⟨rfl, h⟩
    | true =>
      have hfind := h ▸ find?_binding_of_ne (findKey_eq_none (hoff.resolve_left Bool.noConfusion))
      simp [LruCache.lookup, hfind, h]
  · obtain ⟨-, hck, -⟩ := findKey_eq_some hf
    have hfind := h ▸ find?_binding hf
    have hfilter := h ▸ filter_binding hf h.nodup
    simp only [decide_not] at hfilter
    simp [LruCache.lookup, hfind, hg, hlt, CacheEntry.binding, Represents, LruCache.without,
      hfilter, hck]
  · have hfind := h ▸ find?_binding hf
    have hfilter := h ▸ filter_binding hf h.nodup
    simp only [decide_not] at hfilter
    simp [LruCache.lookup, hfind, hg, CacheEntry.binding, Represents, LruCache.without, hfilter,
      show ¬now < current.expiry by omega]

theorem Represents.cacheResponse (h : Represents cache c) (hk : ∀ x ∈ cache, x.key ≠ key)
    (enableCaching : Bool) (now : Int) (response : Bytes) :
    Represents (CurlValidation.cacheResponse enableCaching now key response cache)
      (c.store enableCaching now key response) := by
  cases enableCaching with
  | false => exact h
  | true =>
    have hwithout : c.without key = cache.map CacheEntry.binding := h ▸ filter_binding_of_ne hk
    have hlen : cache.length = c.entries.length := by rw [← h, List.length_map]
    unfold CurlValidation.cacheResponse LruCache.store Represents
    simp only [Bool.true_eq_false, if_false, hwithout, countEntries_eq_min, List.length_cons,
      List.length_map]
    by_cases hfull : 100 ≤ cache.length
    · have hne : cache.map CacheEntry.binding ≠ [] := by
        simp only [ne_eq, List.map_eq_nil_iff]; rintro rfl; simp at hfull
      simp [hfull, show 100 < cache.length + 1 by omega, removeLastEntry,
        show 2 ≤ cache.length by omega, List.dropLast_cons_of_ne_nil hne, List.map_dropLast,
        CacheEntry.binding, cacheTtl]
    · simp [hfull, show ¬100 < cache.length + 1 by omega, CacheEntry.binding, cacheTtl]

/-- After a miss on a list with distinct keys, the key is not in the list. -/
theorem not_mem_of_miss (hn : (cache.map CacheEntry.key).Nodup) {now : Int}
    {cache' : List CacheEntry} (hg : getCachedResponse true now key cache = (none, cache')) :
    ∀ x ∈ cache', x.key ≠ key := by
  rcases getCachedResponse_cases true now key cache with
    ⟨hg', hoff⟩ | ⟨passed, current, after, -, hf, ⟨-, hg'⟩ | ⟨-, hg'⟩⟩ <;> rw [hg'] at hg <;>
    cases hg
  · exact findKey_eq_none (hoff.resolve_left Bool.noConfusion)
  · exact findKey_others_ne hf hn

theorem Represents.applyUse (h : Represents cache c) (u : CacheUse) :
    (u.apply cache).1 = (LruCache.applyUse u c).1 ∧
      Represents (u.apply cache).2 (LruCache.applyUse u c).2 := by
  cases u with
  | validationCleanup => exact ⟨rfl, rfl⟩
  | request r =>
    obtain ⟨en, key, now, store⟩ := r
    obtain ⟨hout, hrep⟩ := h.lookup en now key
    simp only [CacheUse.apply, LruCache.applyUse]
    rcases hg : getCachedResponse en now key cache with ⟨out, cache'⟩
    rcases hl : c.lookup en now key with ⟨out', c'⟩
    rw [hg, hl] at hout hrep
    cases hout
    cases out with
    | some v => exact ⟨rfl, hrep⟩
    | none =>
      rcases store with _ | ⟨response, storeAt⟩
      · exact ⟨rfl, hrep⟩
      · refine ⟨rfl, ?_⟩
        cases en with
        | false => exact hrep
        | true => exact hrep.cacheResponse (not_mem_of_miss h.nodup hg) true storeAt response

end Simulation

theorem runCacheUses_refines :
    ∀ (uses : List CacheUse) {cache : List CacheEntry} {c : LruCache}, Represents cache c →
      (runCacheUses uses cache).1 = (LruCache.runUses uses c).1 ∧
        Represents (runCacheUses uses cache).2 (LruCache.runUses uses c).2
  | [], _, _, h => ⟨rfl, h⟩
  | u :: uses, _, _, h => by
    obtain ⟨hout, hrep⟩ := h.applyUse u
    obtain ⟨houts, hrep'⟩ := runCacheUses_refines uses hrep
    exact ⟨by simp [runCacheUses, LruCache.runUses, hout, houts], hrep'⟩

/-- **Refinement, for requests made one at a time.** For every sequence of validation requests,
each calling `get_cached_response` and, after a miss, possibly `cache_response` of the same key,
with any `enable_caching` values, clock values and `validation_cleanup` calls between them, every
lookup on the list from `cache_head` answers as the LRU map with absolute expiry does, and the
list holds the map's bindings in its order of recency. -/
theorem cache_refines_lru_sequential (uses : List CacheUse) :
    (runCacheUses uses []).1 = (LruCache.runUses uses LruCache.empty).1 ∧
      Represents (runCacheUses uses []).2 (LruCache.runUses uses LruCache.empty).2 :=
  runCacheUses_refines uses rfl

/-! ### A stale duplicate takes a place -/

section StaleDuplicate

theorem runCacheOps_append_snd (ops₁ ops₂ : List CacheOp) (cache : List CacheEntry) :
    (runCacheOps (ops₁ ++ ops₂) cache).2 = (runCacheOps ops₂ (runCacheOps ops₁ cache).2).2 := by
  induction ops₁ generalizing cache with
  | nil => rfl
  | cons op ops ih => simp [runCacheOps, ih]

theorem runCacheOps_append_fst (ops₁ ops₂ : List CacheOp) (cache : List CacheEntry) :
    (runCacheOps (ops₁ ++ ops₂) cache).1 =
      (runCacheOps ops₁ cache).1 ++ (runCacheOps ops₂ (runCacheOps ops₁ cache).2).1 := by
  induction ops₁ generalizing cache with
  | nil => rfl
  | cons op ops ih => simp [runCacheOps, ih]

theorem runCacheOps_concat_getLast? (ops : List CacheOp) (op : CacheOp) (cache : List CacheEntry) :
    (runCacheOps (ops ++ [op]) cache).1.getLast? = some (op.apply (runCacheOps ops cache).2).1 := by
  simp [runCacheOps_append_fst, runCacheOps]

theorem LruCache.runOps_append_snd (ops₁ ops₂ : List CacheOp) (c : LruCache) :
    (runOps (ops₁ ++ ops₂) c).2 = (runOps ops₂ (runOps ops₁ c).2).2 := by
  induction ops₁ generalizing c with
  | nil => rfl
  | cons op ops ih => simp [runOps, ih]

theorem LruCache.runOps_append_fst (ops₁ ops₂ : List CacheOp) (c : LruCache) :
    (runOps (ops₁ ++ ops₂) c).1 = (runOps ops₁ c).1 ++ (runOps ops₂ (runOps ops₁ c).2).1 := by
  induction ops₁ generalizing c with
  | nil => rfl
  | cons op ops ih => simp [runOps, ih]

theorem LruCache.runOps_concat_getLast? (ops : List CacheOp) (op : CacheOp) (c : LruCache) :
    (runOps (ops ++ [op]) c).1.getLast? = some (apply op (runOps ops c).2).1 := by
  simp [runOps_append_fst, runOps]

/-- Stores on a list short enough for all of them each link a new entry at the head. -/
theorem runCacheOps_stores (now : Int) (response : Bytes) :
    ∀ (keys : List Bytes) (cache : List CacheEntry), cache.length + keys.length ≤ 100 →
      (runCacheOps (keys.map fun k => .cacheResponse true now k response) cache).2 =
        (keys.map fun k => ⟨k, response, now + cacheTtl⟩).reverse ++ cache
  | [], _, _ => rfl
  | k :: keys, cache, h => by
    have hstore : CurlValidation.cacheResponse true now k response cache =
        ⟨k, response, now + cacheTtl⟩ :: cache := by
      simp only [List.length_cons] at h
      simp [CurlValidation.cacheResponse, countEntries_eq_min, show ¬100 ≤ cache.length by omega]
    have := runCacheOps_stores now response keys (⟨k, response, now + cacheTtl⟩ :: cache)
      (by simp only [List.length_cons] at h ⊢; omega)
    simp [runCacheOps, CacheOp.apply, hstore, this]

/-- Stores of keys not bound yet, on a map short enough for all of them, each bind at the head. -/
theorem LruCache.runOps_stores_fresh (now : Int) (value : Bytes) :
    ∀ (keys : List Bytes) (c : LruCache), (keys ++ c.entries.map Prod.fst).Nodup →
      c.entries.length + keys.length ≤ 100 →
      (runOps (keys.map fun k => .cacheResponse true now k value) c).2.entries =
        (keys.map fun k => (k, value, now + 300)).reverse ++ c.entries
  | [], _, _, _ => rfl
  | k :: keys, c, hn, h => by
    simp only [List.cons_append, List.nodup_cons, List.mem_append, not_or, List.length_cons] at hn h
    have hwithout : c.without k = c.entries :=
      List.filter_eq_self.mpr fun x hx => by
        simpa using fun hx' => hn.1.2 (List.mem_map.mpr ⟨x, hx, hx'⟩)
    have hstore : (c.store true now k value).entries = (k, value, now + 300) :: c.entries := by
      simp [store, hwithout, show ¬100 < c.entries.length + 1 by omega]
    have hn' : (keys ++ (c.store true now k value).entries.map Prod.fst).Nodup := by
      rw [hstore, List.map_cons, List.nodup_middle]
      exact List.nodup_cons.mpr ⟨by simpa using hn.1, hn.2⟩
    have := runOps_stores_fresh now value keys (c.store true now k value) hn'
      (by rw [hstore, List.length_cons]; omega)
    simp [runOps, apply, this, hstore]

/-- The one-byte key made of the byte `i + 1`: a C string, with no NUL in it. -/
def byteKey (i : Nat) : Bytes := [(i + 1).toUInt8]

theorem byteKey_injective {i j : Nat} (hi : i < 255) (hj : j < 255) (h : byteKey i = byteKey j) :
    i = j := by
  have := congrArg UInt8.toNat (List.cons.inj h).1
  rw [UInt8.toNat_ofNat_of_lt (show i + 1 < 256 by omega),
    UInt8.toNat_ofNat_of_lt (show j + 1 < 256 by omega)] at this
  omega

/-- Keys 0 and 1 first, then `store`s of them as `staleDuplicateOps` makes. -/
def staleDuplicatePrefix : List CacheOp :=
  [.cacheResponse true 0 (byteKey 1) (ascii "success"),
    .cacheResponse true 0 (byteKey 0) (ascii "success"),
    .cacheResponse true 0 (byteKey 0) (ascii "success")]

/-- At time 0: key 1 stored, key 0 stored twice, keys 2 to 99 stored, then key 1 looked up. The
map then holds 100 keys and has evicted none; the list reached 100 entries after key 98, one of
them the stale duplicate of key 0, so storing key 99 unlinked key 1. -/
def staleDuplicateOps : List CacheOp :=
  staleDuplicatePrefix ++
    ((List.range' 2 98).map byteKey).map (fun k => .cacheResponse true 0 k (ascii "success")) ++
    [.getCachedResponse true 0 (byteKey 1)]

set_option maxRecDepth 2000 in
/-- The list misses a live key the map still binds. -/
theorem cache_stale_duplicate_misses_live_key :
    (runCacheOps staleDuplicateOps []).1.getLast? = some none ∧
      (LruCache.runOps staleDuplicateOps LruCache.empty).1.getLast? =
        some (some (ascii "success")) := by
  constructor
  · rw [staleDuplicateOps, runCacheOps_concat_getLast?, runCacheOps_append_snd,
      List.range'_concat, List.map_append, List.map_append, runCacheOps_append_snd,
      runCacheOps_stores 0 _ ((List.range' 2 97).map byteKey) (runCacheOps staleDuplicatePrefix []).2
        (by rw [List.length_map, List.length_range']; decide)]
    decide
  · have hpre : (LruCache.runOps staleDuplicatePrefix LruCache.empty).2.entries =
        [(byteKey 0, ascii "success", 300), (byteKey 1, ascii "success", 300)] := by decide
    have hfresh : ((List.range' 2 98).map byteKey ++
        (LruCache.runOps staleDuplicatePrefix LruCache.empty).2.entries.map Prod.fst).Nodup := by
      simp only [hpre, List.map_cons, List.map_nil]
      rw [show [byteKey 0, byteKey 1] = [0, 1].map byteKey from rfl, ← List.map_append]
      refine List.Nodup.map_on (fun x hx y hy => byteKey_injective ?_ ?_) ?_
      · simp at hx; omega
      · simp at hy; omega
      · refine List.nodup_append.mpr ⟨List.nodup_range' _ _, by decide, ?_⟩
        intro x hx hy
        simp at hx hy; omega
    have hstores := LruCache.runOps_stores_fresh 0 (ascii "success") _ _ hfresh
      (by rw [hpre, List.length_map, List.length_range']; decide)
    rw [staleDuplicateOps, LruCache.runOps_concat_getLast?, LruCache.runOps_append_snd]
    simp only [LruCache.apply, LruCache.lookup, hstores, hpre]
    decide

end StaleDuplicate

end CurlValidation
