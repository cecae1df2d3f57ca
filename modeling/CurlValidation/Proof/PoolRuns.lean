import CurlValidation.Pool

/-!
# What the pool keeps, and what it does not

The bounds hold on every run: `pool_size` stays in `[0, max_connections]` and `current_index` in
`[0, max_connections)`, so every access stays inside the ten slots `malloc`ed for the array.
`current_index` also stays below `pool_size` once the pool holds a handle, so that the round-robin
read hits a filled slot. `validation_cleanup` would break that, zeroing `pool_size` and keeping
`current_index`, but it ends by freeing the string literal `base_url` points at, so no run the
program can make goes on past it.

The ownership discipline the spec states does not hold at all: a handle handed out stays in its
slot, comes back into a second slot, and is destroyed on a full return while the slots still hold
it.
-/

namespace CurlValidation

namespace ConnectionPool

/-- The bounds of `connection_pool` on every run. -/
structure Bounded (pool : ConnectionPool) : Prop where
  max : pool.maxConnections = 10
  size_nonneg : 0 ≤ pool.poolSize
  size_le : pool.poolSize ≤ pool.maxConnections
  index_nonneg : 0 ≤ pool.currentIndex
  index_lt : pool.currentIndex < pool.maxConnections
  length : ∀ a, pool.connections = some a → a.length = 10
  filled : ∀ i, 0 ≤ i → i < pool.poolSize → (pool.slot i).isSome

/-- `current_index` points at a filled slot once there is one. -/
def Settled (pool : ConnectionPool) : Prop := pool.currentIndex < pool.poolSize ∨ pool.currentIndex = 0

theorem bounded_initial : initial.Bounded :=
  ⟨rfl, le_rfl, by decide, le_rfl, by decide, by simp [initial], by simp [initial]; omega⟩

theorem settled_initial : initial.Settled := .inr rfl

end ConnectionPool

open ConnectionPool

section Operations

variable {pooling : Bool} {pool pool' : ConnectionPool} {curl : Handle}

theorem tmod_succ_lt {i n : Int} (hi : 0 ≤ i) (hn : 0 ≤ n) (hne : n ≠ 0) :
    0 ≤ (i + 1).tmod n ∧ (i + 1).tmod n < n :=
  ⟨Int.tmod_nonneg _ (by omega), Int.tmod_lt_of_pos _ (by omega)⟩

theorem bounded_getConnectionFromPool (hb : pool.Bounded) :
    (getConnectionFromPool pooling pool).2.Bounded ∧
      (pool.Settled → (getConnectionFromPool pooling pool).2.Settled) := by
  unfold getConnectionFromPool
  split_ifs with hc
  · exact ⟨hb, id⟩
  · simp only [not_or] at hc
    have := tmod_succ_lt hb.index_nonneg hb.size_nonneg hc.2
    exact ⟨{ hb with index_nonneg := this.1, index_lt := by have := hb.size_le; simp; omega },
      fun _ => .inl this.2⟩

theorem bounded_returnConnectionToPool (hb : pool.Bounded)
    (h : returnConnectionToPool pooling curl pool = some (.pooled pool')) :
    pool'.Bounded ∧ (pool.Settled → pool'.Settled) := by
  obtain ⟨-, hlt, a, ha, rfl⟩ := returnConnectionToPool_pooled h
  have hlen : (pool.connections.getD (CArray.alloc pool.maxConnections.toNat)).length = 10 := by
    cases hc : pool.connections with
    | none => simp [hb.max]
    | some c => simpa using hb.length c hc
  refine ⟨⟨hb.max, show 0 ≤ pool.poolSize + 1 by have := hb.size_nonneg; omega,
    by simpa using hlt, hb.index_nonneg, hb.index_lt, ?_, fun i hi hlt' => ?_⟩,
    fun hs => by unfold Settled at *; simp; omega⟩
  · rintro c ⟨⟩
    rw [CArray.length_of_write ha, hlen]
  · show (a.read i).isSome
    rw [CArray.read_write ha]
    split_ifs with hi'
    · rfl
    · have hfill := hb.filled i hi (by simp at hlt'; omega)
      cases hc : pool.connections with
      | none => simp [slot, hc] at hfill
      | some c => simpa [slot, hc] using hfill

/-- With the bounds, a round-robin read from a settled pool hits a filled slot. -/
theorem slot_currentIndex_isSome (hb : pool.Bounded) (hs : pool.Settled) (hpos : 0 < pool.poolSize) :
    (pool.slot pool.currentIndex).isSome :=
  hb.filled _ hb.index_nonneg (by unfold Settled at hs; omega)

end Operations

/-! ### Runs -/

namespace PoolWorld

/-- What one step does to the pool: nothing, an acquire, or a return into a slot. -/
theorem step_pool {w w' : PoolWorld} {e : PoolEvent} (h : w.step e = some w') :
    w'.pool = w.pool ∨ w'.pool = (getConnectionFromPool w.pooling w.pool).2 ∨
      ∃ hd, returnConnectionToPool w.pooling hd w.pool = some (.pooled w'.pool) := by
  cases e with
  | acquire req =>
    simp only [step] at h
    split at h <;> (try cases h) <;> rename_i hg <;> simp [hg]
  | release req =>
    simp only [step, Option.bind_eq_bind, Option.bind_eq_some] at h
    obtain ⟨hd, -, r, hr, h⟩ := h
    cases r with
    | pooled pool => cases h; exact .inr (.inr ⟨hd, hr⟩)
    | cleanedUp =>
      obtain ⟨d, -, h⟩ := Option.bind_eq_some.mp h
      cases h; exact .inl rfl
  | cleanup => cases (step_cleanup w).symm.trans h
  | setPooling enable =>
    cases h; exact .inl rfl

/-- A run that returns has no `validation_cleanup` in it. -/
theorem cleanup_not_mem_of_run :
    ∀ (es : List PoolEvent) {w w' : PoolWorld}, w.run es = some w' → PoolEvent.cleanup ∉ es
  | [], _, _, _ => List.not_mem_nil _
  | e :: es, w, _, h => by
    obtain ⟨v, hv, h⟩ := Option.bind_eq_some.mp h
    refine List.not_mem_cons_of_ne_of_not_mem (fun he => ?_) (cleanup_not_mem_of_run es h)
    subst he
    cases (step_cleanup w).symm.trans hv

/-- An invariant of the steps whose event satisfies `allowed` holds along such a run. -/
theorem run_invariant (allowed : PoolEvent → Prop) (P : PoolWorld → Prop)
    (hstep : ∀ w e w', allowed e → P w → w.step e = some w' → P w') :
    ∀ (es : List PoolEvent) (w w' : PoolWorld), (∀ e ∈ es, allowed e) → P w →
      w.run es = some w' → P w'
  | [], w, w', _, hw, h => by cases h; exact hw
  | e :: es, w, w', hes, hw, h => by
    obtain ⟨v, hv, h⟩ := Option.bind_eq_some.mp h
    exact run_invariant allowed P hstep es v w' (fun e he => hes e (.tail _ he))
      (hstep w e v (hes e (.head _)) hw hv) h

theorem settled_step {w w' : PoolWorld} {e : PoolEvent} (hw : w.pool.Bounded ∧ w.pool.Settled)
    (h : w.step e = some w') : w'.pool.Bounded ∧ w'.pool.Settled := by
  rcases step_pool h with he | he | ⟨hd, hr⟩
  · exact he ▸ hw
  · exact he ▸ (bounded_getConnectionFromPool hw.1).imp_right (· hw.2)
  · exact (bounded_returnConnectionToPool hw.1 hr).imp_right (· hw.2)

theorem bounded_step {w w' : PoolWorld} {e : PoolEvent} (hw : w.pool.Bounded)
    (h : w.step e = some w') : w'.pool.Bounded := by
  rcases step_pool h with he | he | ⟨hd, hr⟩
  · exact he ▸ hw
  · exact he ▸ (bounded_getConnectionFromPool hw).1
  · exact (bounded_returnConnectionToPool hw hr).1

end PoolWorld

/-- The pool events of `n` calls of `curl_validation_enhanced` made one after another, each
missing the cache: acquire, then return. -/
def sequentialRequests (n : Nat) : List PoolEvent :=
  (List.range n).flatMap fun req => [.acquire req, .release req]

/-- **Pool bounds.** On every run of acquires, returns, cleanups and toggles of
`enable_connection_pooling`, from the initial pool: `0 ≤ pool_size ≤ max_connections = 10`,
`0 ≤ current_index < max_connections`, an allocated array has its ten slots and
`connections[0 .. pool_size)` are filled; so the next return writes inside the array. -/
theorem pool_bounded_on_every_run (es : List PoolEvent) (w : PoolWorld)
    (h : PoolWorld.initial.run es = some w) :
    w.pool.Bounded ∧ ∀ curl, returnConnectionToPool w.pooling curl w.pool ≠ none := by
  have hb := PoolWorld.run_invariant (fun _ => True) (fun w => w.pool.Bounded)
    (fun _ _ _ _ hw hs => PoolWorld.bounded_step hw hs) es _ w (fun _ _ => trivial)
    bounded_initial h
  exact ⟨hb, fun _ => returnConnectionToPool_ne_none hb.size_nonneg
    (fun a ha => by rw [hb.length a ha, hb.max]; rfl)⟩

theorem pool_bounded_after_two_requests :
    ∃ w, PoolWorld.initial.run (sequentialRequests 2) = some w ∧ w.pool.Bounded :=
  ⟨_, rfl, (pool_bounded_on_every_run (sequentialRequests 2) _ rfl).1⟩

/-- **Round-robin reads before any cleanup.** On every run with no `validation_cleanup`, once the
pool holds a handle `current_index` is below `pool_size`, so `get_connection_from_pool` reads a
filled slot. -/
theorem pool_reads_filled_slot_without_cleanup (es : List PoolEvent) (w : PoolWorld)
    (hnc : PoolEvent.cleanup ∉ es) (h : PoolWorld.initial.run es = some w)
    (hpos : 0 < w.pool.poolSize) :
    w.pool.currentIndex < w.pool.poolSize ∧ (w.pool.slot w.pool.currentIndex).isSome := by
  obtain ⟨hb, hs⟩ := PoolWorld.run_invariant (· ≠ .cleanup) (fun w => w.pool.Bounded ∧ w.pool.Settled)
    (fun _ _ _ _ hw hs => PoolWorld.settled_step hw hs) es _ w
    (fun e he hc => hnc (hc ▸ he)) ⟨bounded_initial, settled_initial⟩ h
  exact ⟨by unfold Settled at hs; omega, slot_currentIndex_isSome hb hs hpos⟩

theorem pool_reads_filled_slot_two_requests :
    ∃ w, PoolWorld.initial.run [.acquire 0, .acquire 1, .release 0, .release 1] = some w ∧
      w.pool.currentIndex < w.pool.poolSize :=
  ⟨_, rfl, (pool_reads_filled_slot_without_cleanup
    [.acquire 0, .acquire 1, .release 0, .release 1] _ (by decide) rfl (by decide)).1⟩

/-- **The pool invariant, on the runs the program can make.** A run of acquires, returns,
`validation_cleanup` calls and toggles of `enable_connection_pooling` from the initial pool that is
defined has no `validation_cleanup` in it, since that call frees the string-literal `base_url`. It
keeps `0 ≤ pool_size ≤ max_connections`, and once `pool_size > 0` it keeps
`0 ≤ current_index < pool_size`, so that `get_connection_from_pool` reads a slot that
`return_connection_to_pool` has filled. -/
theorem pool_index_below_size_on_every_run (es : List PoolEvent) (w : PoolWorld)
    (h : PoolWorld.initial.run es = some w) :
    PoolEvent.cleanup ∉ es ∧ 0 ≤ w.pool.poolSize ∧ w.pool.poolSize ≤ w.pool.maxConnections ∧
      (0 < w.pool.poolSize → 0 ≤ w.pool.currentIndex ∧ w.pool.currentIndex < w.pool.poolSize ∧
        (w.pool.slot w.pool.currentIndex).isSome) := by
  obtain ⟨hb, hs⟩ := PoolWorld.run_invariant (fun _ => True)
    (fun w => w.pool.Bounded ∧ w.pool.Settled) (fun _ _ _ _ hw hs => PoolWorld.settled_step hw hs)
    es _ w (fun _ _ => trivial) ⟨bounded_initial, settled_initial⟩ h
  exact ⟨PoolWorld.cleanup_not_mem_of_run es h, hb.size_nonneg, hb.size_le, fun hpos =>
    ⟨hb.index_nonneg, by unfold Settled at hs; omega, slot_currentIndex_isSome hb hs hpos⟩⟩

/-- Three requests, the third still holding its handle: `current_index` has moved on to slot 1 of
the two filled ones. -/
theorem pool_index_below_size_three_requests :
    ∃ w, PoolWorld.initial.run [.acquire 0, .acquire 1, .release 0, .release 1, .acquire 2] =
        some w ∧ w.pool.currentIndex = 1 ∧ w.pool.currentIndex < w.pool.poolSize :=
  ⟨_, rfl, rfl, ((pool_index_below_size_on_every_run
    [.acquire 0, .acquire 1, .release 0, .release 1, .acquire 2] _ rfl).2.2.2 (by decide)).2.1⟩

/-! ### Where the spec's discipline fails -/

/-- Two requests one after the other: the second is handed the handle the first returned, and
that handle stays in idle slot 0 while the second holds it. After eleven requests the eleventh
return destroys the handle while all ten slots still hold it, and the twelfth request is handed
the destroyed handle. -/
theorem pool_reissues_idle_and_destroyed_handle :
    ((PoolWorld.initial.run (sequentialRequests 1 ++ [.acquire 1])).map
        fun w => (w.holding 1, w.idle)) = some (some 0, [some 0]) ∧
      ((PoolWorld.initial.run (sequentialRequests 11 ++ [.acquire 11])).map
        fun w => (w.holding 11, w.idle, w.destroyed)) =
        some (some 0, List.replicate 10 (some 0), [0]) := by
  decide

end CurlValidation
