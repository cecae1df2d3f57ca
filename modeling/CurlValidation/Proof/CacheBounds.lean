import CurlValidation.Cache

/-!
# The cache list: its size, and its order by recency

The size bound needs nothing of the calls: `cache_response` unlinks the tail whenever its count
reached 100, and a lookup only unlinks. The order by recency needs the calls in the shape a
request made on its own gives them, a store only after a miss on the same key: the store does
not look for its key, and a second store of a present key leaves two entries with it.

Recency is measured by a ghost clock that counts uses, and the use at which each key was last
stored or hit.
-/

namespace CurlValidation

/-! ### At most a hundred entries -/

theorem length_apply_le (op : CacheOp) {cache : List CacheEntry} (h : cache.length ≤ 100) :
    (op.apply cache).2.length ≤ 100 := by
  cases op with
  | getCachedResponse en now key => exact (getCachedResponse_length_le en now).trans h
  | cacheResponse en now key response => exact cacheResponse_length_le en now response h
  | validationCleanup => simp [CacheOp.apply]

theorem length_runCacheOps_le :
    ∀ (ops : List CacheOp) {cache : List CacheEntry}, cache.length ≤ 100 →
      (runCacheOps ops cache).2.length ≤ 100
  | [], _, h => h
  | op :: ops, _, h => length_runCacheOps_le ops (length_apply_le op h)

/-- **Cache size bound.** After every sequence of calls of `cache_response`,
`get_cached_response` and `validation_cleanup` from the empty list, with any keys, clock values and
`enable_caching` values, the list has at most 100 entries; and `get_cached_response` never makes
a list longer. -/
theorem cache_list_at_most_hundred (ops : List CacheOp) :
    (runCacheOps ops []).2.length ≤ 100 ∧
      ∀ (enableCaching : Bool) (now : Int) (key : Bytes) (cache : List CacheEntry),
        (getCachedResponse enableCaching now key cache).2.length ≤ cache.length :=
  ⟨length_runCacheOps_le ops (Nat.zero_le _), fun en now _ _ => getCachedResponse_length_le en now⟩

/-! ### Two entries with one key -/

/-- Two stores of one key, as two requests for one pair that both missed before either stored
make them, leave two entries with that key. -/
theorem cache_response_twice_duplicates :
    ¬((runCacheOps [.cacheResponse true 0 (ascii "k") (ascii "success"),
        .cacheResponse true 0 (ascii "k") (ascii "success")] []).2.map CacheEntry.key).Nodup := by
  decide

/-! ### Recency -/

/-- The cache along a run of uses, with the ghost clock and the use at which each key was last
stored or hit. -/
structure Recency where
  cache : List CacheEntry
  clock : Nat
  lastUse : Bytes → Nat

/-- The key a use stores or hits, if any. -/
def CacheUse.touches (cache : List CacheEntry) : CacheUse → Option Bytes
  | .request r =>
    if r.enableCaching = true ∧
        ((getCachedResponse r.enableCaching r.lookupAt r.key cache).1.isSome ∨ r.store.isSome)
    then some r.key else none
  | .validationCleanup => none

namespace Recency

def initial : Recency := ⟨[], 0, fun _ => 0⟩

def step (m : Recency) (u : CacheUse) : Recency where
  cache := (u.apply m.cache).2
  clock := m.clock + 1
  lastUse := match u.touches m.cache with
    | some key => Function.update m.lastUse key m.clock
    | none => m.lastUse

def run (m : Recency) (uses : List CacheUse) : Recency := uses.foldl step m

end Recency

/-- Entries ordered by strictly decreasing time of last use, all before `clock`. -/
def RecencyOrdered (lastUse : Bytes → Nat) (clock : Nat) (cache : List CacheEntry) : Prop :=
  (cache.map fun e => lastUse e.key).Pairwise (· > ·) ∧ ∀ e ∈ cache, lastUse e.key < clock

section Ordered

variable {lastUse : Bytes → Nat} {clock : Nat} {cache : List CacheEntry}

theorem RecencyOrdered.sublist (h : RecencyOrdered lastUse clock cache) {cache' : List CacheEntry}
    (hs : List.Sublist cache' cache) : RecencyOrdered lastUse clock cache' :=
  ⟨h.1.sublist (hs.map _), fun e he => h.2 e (hs.subset he)⟩

theorem RecencyOrdered.succ (h : RecencyOrdered lastUse clock cache) :
    RecencyOrdered lastUse (clock + 1) cache :=
  ⟨h.1, fun e he => Nat.lt_succ_of_lt (h.2 e he)⟩

/-- Strictly decreasing times of last use tell the keys apart. -/
theorem RecencyOrdered.nodup (h : RecencyOrdered lastUse clock cache) :
    (cache.map CacheEntry.key).Nodup := by
  unfold List.Nodup
  rw [List.pairwise_map]
  exact (List.pairwise_map.mp h.1).imp fun hlt heq => Nat.ne_of_gt hlt (congrArg lastUse heq)

/-- Linking an entry whose key is not in the list at the head, used now. -/
theorem RecencyOrdered.cons (h : RecencyOrdered lastUse clock cache) {e : CacheEntry}
    (hk : ∀ x ∈ cache, x.key ≠ e.key) :
    RecencyOrdered (Function.update lastUse e.key clock) (clock + 1) (e :: cache) := by
  have hmap : (cache.map fun x => Function.update lastUse e.key clock x.key) =
      cache.map fun x => lastUse x.key :=
    List.map_congr_left fun x hx => Function.update_noteq (hk x hx) _ _
  refine ⟨?_, fun x hx => ?_⟩
  · simp only [List.map_cons, List.pairwise_cons, hmap, Function.update_same]
    exact ⟨fun a ha => by
      obtain ⟨x, hx, rfl⟩ := List.mem_map.mp ha
      exact h.2 x hx, h.1⟩
  · rcases List.mem_cons.mp hx with rfl | hx
    · simp
    · rw [Function.update_noteq (hk x hx)]; exact Nat.lt_succ_of_lt (h.2 x hx)

/-- A store of a key not in the list. -/
theorem RecencyOrdered.cacheResponse (h : RecencyOrdered lastUse clock cache) {key : Bytes}
    (hk : ∀ x ∈ cache, x.key ≠ key) (now : Int) (response : Bytes) :
    RecencyOrdered (Function.update lastUse key clock) (clock + 1)
      (CurlValidation.cacheResponse true now key response cache) := by
  have hsub : List.Sublist (if 100 ≤ countEntries cache then removeLastEntry cache else cache)
      cache := by
    split_ifs
    · unfold removeLastEntry; split_ifs
      · exact List.dropLast_sublist _
      · exact List.Sublist.refl _
    · exact List.Sublist.refl _
  exact (h.sublist hsub).cons (e := ⟨key, response, now + cacheTtl⟩)
    fun x hx => hk x (hsub.subset hx)

end Ordered

/-- One use keeps the order. -/
theorem RecencyOrdered.step {m : Recency} (h : RecencyOrdered m.lastUse m.clock m.cache)
    (u : CacheUse) : RecencyOrdered (m.step u).lastUse (m.step u).clock (m.step u).cache := by
  cases u with
  | validationCleanup => exact ⟨List.Pairwise.nil, by simp [Recency.step, CacheUse.apply]⟩
  | request r =>
    obtain ⟨en, key, now, store⟩ := r
    simp only [Recency.step, CacheUse.apply, CacheUse.touches]
    cases en with
    | false =>
      rcases store with _ | ⟨response, storeAt⟩ <;>
        simpa [getCachedResponse, CurlValidation.cacheResponse] using h.succ
    | true =>
      rcases getCachedResponse_cases true now key m.cache with
        ⟨hg, hoff⟩ | ⟨passed, current, after, -, hf, ⟨hlt, hg⟩ | ⟨hge, hg⟩⟩
      · have hf := hoff.resolve_left Bool.noConfusion
        rcases store with _ | ⟨response, storeAt⟩
        · simpa [hg] using h.succ
        · simpa [hg] using h.cacheResponse (findKey_eq_none hf) storeAt response
      · have hk := findKey_others_ne hf h.nodup
        obtain ⟨-, rfl, -⟩ := findKey_eq_some hf
        rcases store with _ | ⟨response, storeAt⟩ <;>
          simpa [hg] using (h.sublist (findKey_sublist hf)).cons (e := current) hk
      · have hk := findKey_others_ne hf h.nodup
        rcases store with _ | ⟨response, storeAt⟩
        · simpa [hg] using (h.sublist (findKey_sublist hf)).succ
        · simpa [hg] using (h.sublist (findKey_sublist hf)).cacheResponse hk storeAt response

theorem recencyOrdered_run :
    ∀ (uses : List CacheUse) (m : Recency), RecencyOrdered m.lastUse m.clock m.cache →
      RecencyOrdered (m.run uses).lastUse (m.run uses).clock (m.run uses).cache
  | [], _, h => h
  | u :: uses, m, h => recencyOrdered_run uses (m.step u) (h.step u)

/-- **Recency order, for requests made one at a time.** For every sequence of validation requests,
each calling `get_cached_response` and, after a miss, possibly `cache_response` of the same key,
with any `enable_caching` values, clock values and `validation_cleanup` calls between them, the list
from `cache_head` never holds two entries with one key and is ordered by strictly decreasing time
of last store or hit; so the tail `cache_response` unlinks is the least recently used key. -/
theorem cache_recency_ordered_sequential (uses : List CacheUse) :
    ((Recency.initial.run uses).cache.map CacheEntry.key).Nodup ∧
      ((Recency.initial.run uses).cache.map
        fun e => (Recency.initial.run uses).lastUse e.key).Pairwise (· > ·) :=
  have h := recencyOrdered_run uses Recency.initial ⟨List.Pairwise.nil, by simp [Recency.initial]⟩
  ⟨h.nodup, h.1⟩

end CurlValidation
