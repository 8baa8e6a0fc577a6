import ContainerFleet.Proofs.CacheRun
import ContainerFleet.Proofs.Pool
import Mathlib.Data.List.Perm.Basic

namespace ContainerFleet

inductive PoolOp where
  | lease (key : ClientKey) (refusal : Option RuntimeError)
  /-- Drops one of the leases that are held, the latest of which is the first. -/
  | drop (i : Nat)
  | purge
  | wait (d : Duration)

structure PoolRun where
  now : Duration
  pool : Pool
  past : CachePast ClientKey Client := []
  leases : List (ClientKey × Client) := []

namespace PoolRun

def start (limit now : Duration) : PoolRun := { now, pool := .ofIdle limit }

def cacheRun (r : PoolRun) : CacheRun ClientKey Client := ⟨r.now, r.pool.cache, r.past⟩

def cacheOps (r : PoolRun) : PoolOp → List (CacheOp ClientKey Client)
  | .lease key refusal =>
    match (r.pool.cache.checkout r.now key).answer, refusal with
    | none, none => [.checkout key, .store key ⟨key.uri, r.pool.dialled⟩]
    | _, _ => [.checkout key]
  | .drop i => (r.leases[i]?.map fun x => .release x.1).toList
  | .purge => [.purge]
  | .wait d => [.wait d]

def step (r : PoolRun) (o : PoolOp) : PoolRun :=
  let past := (r.cacheRun.run (r.cacheOps o)).past
  match o with
  | .lease key refusal =>
    let out := r.pool.lease r.now key refusal
    let leases := match out.1 with
      | .ok client => (key, client) :: r.leases
      | .error _ => r.leases
    { r with pool := out.2, past, leases }
  | .drop i =>
    match r.leases[i]? with
    | some x =>
      { r with pool := (r.pool.release r.now x.1).2, past, leases := r.leases.eraseIdx i }
    | none => r
  | .purge => { r with pool := (r.pool.purge r.now).2, past }
  | .wait d => { r with now := r.now + d }

def run (r : PoolRun) (ops : List PoolOp) : PoolRun := ops.foldl step r

variable {r : PoolRun} {o : PoolOp} {key : ClientKey} {client : Client}

/-- The cache of the pool goes through the operations of a cache, and nothing else. -/
theorem cacheRun_step : (r.step o).cacheRun = r.cacheRun.run (r.cacheOps o) := by
  cases o with
  | lease key refusal =>
    cases ha : (r.pool.cache.checkout r.now key).answer with
    | some client =>
      simp only [step, cacheOps, Pool.lease, ha]
      rfl
    | none =>
      cases refusal with
      | some e =>
        simp only [step, cacheOps, Pool.lease, ha]
        rfl
      | none =>
        simp only [step, cacheOps, Pool.lease, ha, Cache.store_of_miss ha]
        rfl
  | drop i =>
    simp only [step, cacheOps]
    cases r.leases[i]? <;> rfl
  | purge => rfl
  | wait d => rfl

/-- Each client that was cached was dialled, and no other is the same. -/
structure Fresh (past : CachePast ClientKey Client) (dialled : Nat) : Prop where
  below : ∀ k, ∀ v ∈ past.stored k, v.serial < dialled
  apart : ∀ k l v, v ∈ past.stored k → v ∈ past.stored l → k = l
  once : ∀ k, (past.stored k).Nodup

namespace Fresh

variable {past past' : CachePast ClientKey Client} {n n' : Nat}

theorem of_stored (h : Fresh past n) (hn : n ≤ n') (hs : ∀ k, past'.stored k = past.stored k) :
    Fresh past' n' := by
  refine ⟨fun k v hv => ?_, fun k l v hk hl => ?_, fun k => ?_⟩
  · exact Nat.lt_of_lt_of_le (h.below k v (hs k ▸ hv)) hn
  · exact h.apart k l v (hs k ▸ hk) (hs l ▸ hl)
  · exact hs k ▸ h.once k

theorem dial (h : Fresh past n) (hc : client.serial = n)
    (hs : past'.stored key = past.stored key ++ [client])
    (ho : ∀ k, k ≠ key → past'.stored k = past.stored k) : Fresh past' (n + 1) := by
  have hnew : ∀ k, client ∉ past.stored k := fun k hk => by
    have hlt := h.below k client hk
    omega
  have hmem : ∀ k v, v ∈ past'.stored k → v ∈ past.stored k ∨ k = key ∧ v = client := by
    intro k v hv
    by_cases hk : k = key
    · subst hk
      rw [hs, List.mem_append, List.mem_singleton] at hv
      exact hv.imp id fun he => ⟨rfl, he⟩
    · exact .inl (ho k hk ▸ hv)
  refine ⟨fun k v hv => ?_, fun k l v hk hl => ?_, fun k => ?_⟩
  · obtain hv | ⟨-, rfl⟩ := hmem k v hv
    · exact Nat.lt_succ_of_lt (h.below k v hv)
    · omega
  · obtain hk | ⟨rfl, rfl⟩ := hmem k v hk <;> obtain hl | ⟨rfl, hv⟩ := hmem l _ hl
    · exact h.apart k l v hk hl
    · exact absurd (hv ▸ hk) (hnew k)
    · exact absurd hl (hnew l)
    · rfl
  · by_cases hk : k = key
    · subst hk
      rw [hs, List.nodup_append]
      refine ⟨h.once k, List.pairwise_singleton .., fun v hv w hw he => ?_⟩
      obtain rfl := List.mem_singleton.1 hw
      exact hnew k (he ▸ hv)
    · exact ho k hk ▸ h.once k

end Fresh

/-- The leases that are held are those that the cache counts, and hold what it has cached. -/
structure Held (c : Cache ClientKey Client) (leases : List (ClientKey × Client)) : Prop where
  client : ∀ x ∈ leases, ∃ n, c.get? x.1 = some (.active x.2 n)
  usage : ∀ key, (c.usage? key).getD 0 = leases.countP (·.1 = key)

namespace Held

variable {c c' : Cache ClientKey Client} {leases : List (ClientKey × Client)}

theorem of_live (h : Held c leases) (now : Duration) (hg : ∀ k, c'.get? k = c.live? now k) :
    Held c' leases := by
  refine ⟨fun x hx => ?_, fun key => ?_⟩
  · obtain ⟨n, hn⟩ := h.client x hx
    exact ⟨n, (hg x.1).trans (Cache.live?_of_active hn)⟩
  · rw [Cache.usage?, hg, Cache.usage_live?]
    exact h.usage key

theorem add (h : Held c leases) (now : Duration)
    (hv : ∀ w n, c.get? key = some (.active w n) → w = client)
    (hg : ∀ k, c'.get? k =
      if k = key then some (.active client ((c.usage? key).getD 0 + 1)) else c.live? now k) :
    Held c' ((key, client) :: leases) := by
  refine ⟨fun x hx => ?_, fun k => ?_⟩
  · by_cases hk : x.1 = key
    · refine ⟨(c.usage? key).getD 0 + 1, ?_⟩
      obtain rfl | hx := List.mem_cons.1 hx
      · rw [hg, if_pos rfl]
      · obtain ⟨n, hn⟩ := h.client x hx
        rw [hg, if_pos hk, hv x.2 n (hk ▸ hn)]
    · have hx : x ∈ leases := (List.mem_cons.1 hx).resolve_left fun he => hk (he ▸ rfl)
      obtain ⟨n, hn⟩ := h.client x hx
      exact ⟨n, by rw [hg, if_neg hk, Cache.live?_of_active hn]⟩
  · have hu := h.usage k
    rw [Cache.usage?, hg, List.countP_cons]
    by_cases hk : k = key
    · subst hk
      simp [hu]
    · have hk' : key ≠ k := fun he => hk he.symm
      rw [if_neg hk, Cache.usage_live?, hu]
      simp [hk']

theorem giveBack {i u : Nat} (h : Held c leases) (now : Duration) (hi : leases[i]? = some (key, client))
    (hu : c.get? key = some (.active client u)) :
    Held (c.put key (Cache.givenBack now client u)) (leases.eraseIdx i) := by
  obtain ⟨hlt, hget⟩ := List.getElem?_eq_some_iff.1 hi
  have hcount : ∀ k, leases.countP (·.1 = k) =
      (leases.eraseIdx i).countP (·.1 = k) + if key = k then 1 else 0 := by
    intro k
    rw [← (List.getElem_cons_eraseIdx_perm hlt).countP_eq, hget, List.countP_cons]
    simp
  have hn : u = (leases.eraseIdx i).countP (·.1 = key) + 1 := by
    have hk := h.usage key
    rw [Cache.usage?, hu, hcount, if_pos rfl] at hk
    exact hk
  refine ⟨fun x hx => ?_, fun k => ?_⟩
  · obtain ⟨n, hx'⟩ := h.client x (List.mem_of_mem_eraseIdx hx)
    by_cases hk : x.1 = key
    · have hpos : 0 < (leases.eraseIdx i).countP (·.1 = key) :=
        List.countP_pos_iff.2 ⟨x, hx, by simp [hk]⟩
      rw [hk, hu] at hx'
      cases hx'
      refine ⟨u - 1, ?_⟩
      rw [Cache.get?_put, if_pos hk, Cache.givenBack, if_neg (by omega)]
    · exact ⟨n, by rw [Cache.get?_put, if_neg hk, hx']⟩
  · rw [Cache.usage?, Cache.get?_put]
    by_cases hk : k = key
    · subst hk
      rw [if_pos rfl, Cache.givenBack]
      split
      · simp
        omega
      · simp
        omega
    · have hk' : key ≠ k := fun he => hk he.symm
      have huse := h.usage k
      rw [hcount, if_neg hk', Nat.add_zero] at huse
      rw [if_neg hk]
      exact huse

end Held

structure Sound (limit : Duration) (r : PoolRun) : Prop where
  cache : r.cacheRun.Sound
  idleFor : r.pool.cache.idleFor = limit
  held : Held r.pool.cache r.leases
  fresh : Fresh r.past r.pool.dialled

variable {limit : Duration}

theorem sound_start (limit now : Duration) : (start limit now).Sound limit := by
  refine ⟨CacheRun.sound_start limit now, rfl, ⟨fun x hx => ?_, fun key => rfl⟩, ?_⟩
  · cases hx
  · refine ⟨fun k v hv => ?_, fun k l v hv => ?_, fun k => List.nodup_nil⟩
    · cases hv
    · cases hv

theorem past_step : (r.step o).past = (r.cacheRun.run (r.cacheOps o)).past :=
  congrArg CacheRun.past cacheRun_step

theorem Sound.distinct (h : r.Sound limit) : r.pool.cache.Distinct := h.cache.distinct

theorem Sound.cache_step (h : r.Sound limit) (o : PoolOp) : (r.step o).cacheRun.Sound := by
  rw [cacheRun_step]
  exact h.cache.run _

theorem stored_of_single {x : CacheOp ClientKey Client} (hx : ∀ k v, x ≠ .store k v)
    (ho : r.cacheOps o = [x]) (k : ClientKey) : (r.step o).past.stored k = r.past.stored k := by
  rw [past_step, ho]
  obtain h | ⟨v, rfl, -⟩ := (CacheRun.step_cases r.cacheRun x).stored k
  · exact h
  · exact absurd rfl (hx k v)

theorem cacheOps_refused (cause : RuntimeError) :
    r.cacheOps (.lease key (some cause)) = [.checkout key] := by
  rw [cacheOps]
  exact fun _ hr => by cases hr

theorem step_lease_live {e : CacheEntry Client} (h : r.Sound limit)
    (he : r.pool.cache.live? r.now key = some e) (refusal : Option RuntimeError) :
    (r.step (.lease key refusal)).Sound limit := by
  have hlease := Pool.lease_live h.distinct he refusal
  have hans : (r.pool.cache.checkout r.now key).answer =
      (r.pool.cache.live? r.now key).map (·.value) := Cache.answer_checkout h.distinct
  rw [he] at hans
  have hget : r.pool.cache.get? key = some e := (Cache.live?_eq_some.1 he).1
  refine ⟨h.cache_step _, ?_, ?_, ?_⟩
  · simp only [step, hlease, Cache.idleFor_checkout]
    exact h.idleFor
  · simp only [step, hlease]
    refine h.held.add r.now (fun w n hw => ?_) fun k => ?_
    · rw [hget] at hw
      cases hw
      rfl
    · rw [Cache.get?_checkout h.distinct, he, Cache.usage?, hget]
      rfl
  · have hd : (r.step (.lease key refusal)).pool.dialled = r.pool.dialled := by
      simp only [step, hlease]
    rw [hd]
    refine h.fresh.of_stored (Nat.le_refl _) (stored_of_single (x := .checkout key) ?_ ?_)
    · exact fun _ _ hx => by cases hx
    · simp only [cacheOps, hans, Option.map_some]

theorem step_lease_refused (h : r.Sound limit) (he : r.pool.cache.live? r.now key = none)
    (cause : RuntimeError) : (r.step (.lease key (some cause))).Sound limit := by
  have hlease := Pool.lease_refused h.distinct he cause
  refine ⟨h.cache_step _, ?_, ?_, ?_⟩
  · simp only [step, hlease, Cache.idleFor_checkout]
    exact h.idleFor
  · simp only [step, hlease]
    refine h.held.of_live r.now fun k => ?_
    rw [Cache.get?_checkout h.distinct, he]
    by_cases hk : k = key
    · simp [hk, he]
    · rw [if_neg hk]
  · have hd : (r.step (.lease key (some cause))).pool.dialled = r.pool.dialled + 1 := by
      simp only [step, hlease]
    rw [hd]
    refine h.fresh.of_stored (Nat.le_succ _) (stored_of_single ?_ (cacheOps_refused cause))
    exact fun _ _ hx => by cases hx

theorem step_lease_made (h : r.Sound limit) (he : r.pool.cache.live? r.now key = none) :
    (r.step (.lease key none)).Sound limit := by
  have hlease := Pool.lease_made h.distinct he
  have hans : (r.pool.cache.checkout r.now key).answer =
      (r.pool.cache.live? r.now key).map (·.value) := Cache.answer_checkout h.distinct
  rw [he] at hans
  refine ⟨h.cache_step _, ?_, ?_, ?_⟩
  · simp only [step, hlease, Cache.idleFor_store, Cache.idleFor_checkout]
    exact h.idleFor
  · simp only [step, hlease]
    have hu : (r.pool.cache.usage? key).getD 0 = 0 := by
      have hlive : ((r.pool.cache.live? r.now key).map (·.usage)).getD 0 = _ := Cache.usage_live?
      rw [← hlive, he]
      rfl
    refine h.held.add r.now (fun w n hw => ?_) fun k => ?_
    · rw [Cache.live?_of_active hw] at he
      cases he
    · rw [Cache.get?_checkout_store h.distinct he, hu]
  · have hd : (r.step (.lease key none)).pool.dialled = r.pool.dialled + 1 := by
      simp only [step, hlease]
    rw [hd]
    let client : Client := ⟨key.uri, r.pool.dialled⟩
    have hpast : (r.step (.lease key none)).past =
        ((r.cacheRun.step (.checkout key)).step (.store key client)).past := by
      rw [past_step]
      simp only [cacheOps, hans, Option.map_none]
      rfl
    have hfirst : ∀ k, (r.cacheRun.step (.checkout key)).past.stored k = r.past.stored k := by
      intro k
      obtain hs | ⟨v, hx, -⟩ := (CacheRun.step_cases r.cacheRun (.checkout key)).stored k
      · exact hs
      · cases hx
    have hsecond : ∀ k, (r.step (.lease key none)).past.stored k = r.past.stored k ∨
        k = key ∧ (r.step (.lease key none)).past.stored k = r.past.stored k ++ [client] := by
      intro k
      rw [hpast, ← hfirst k]
      obtain hs | ⟨v, hx, hs⟩ :=
        (CacheRun.step_cases (r.cacheRun.step (.checkout key)) (.store key client)).stored k
      · exact .inl hs
      · cases hx
        exact .inr ⟨rfl, hs⟩
    have hothers : ∀ k, k ≠ key → (r.step (.lease key none)).past.stored k = r.past.stored k :=
      fun k hk => (hsecond k).resolve_right fun hr => hk hr.1
    obtain hs | ⟨-, hs⟩ := hsecond key
    · refine h.fresh.of_stored (Nat.le_succ _) fun k => ?_
      by_cases hk : k = key
      · exact hk ▸ hs
      · exact hothers k hk
    · exact h.fresh.dial rfl hs hothers

theorem step_drop (h : r.Sound limit) (i : Nat) : (r.step (.drop i)).Sound limit := by
  cases hi : r.leases[i]? with
  | none =>
    have hsame : r.step (.drop i) = r := by simp only [step, hi]
    rw [hsame]
    exact h
  | some x =>
    obtain ⟨key, client⟩ := x
    obtain ⟨u, hu⟩ := h.held.client _ (List.mem_of_getElem? hi)
    have hrel : r.pool.cache.release r.now key = _ := Cache.release_of_active hu
    refine ⟨h.cache_step _, ?_, ?_, ?_⟩
    · simp only [step, hi, Pool.release, Cache.idleFor_release]
      exact h.idleFor
    · simp only [step, hi, Pool.release, hrel]
      exact (h.held.giveBack r.now hi hu).of_live r.now fun k => Cache.get?_purged h.distinct.put
    · have hd : (r.step (.drop i)).pool.dialled = r.pool.dialled := by
        simp only [step, hi, Pool.release]
      rw [hd]
      refine h.fresh.of_stored (Nat.le_refl _) (stored_of_single (x := .release key) ?_ ?_)
      · exact fun _ _ hx => by cases hx
      · simp [cacheOps, hi]

theorem Sound.step (h : r.Sound limit) (o : PoolOp) : (r.step o).Sound limit := by
  cases o with
  | lease key refusal =>
    cases he : r.pool.cache.live? r.now key with
    | some e => exact step_lease_live h he refusal
    | none =>
      cases refusal with
      | some cause => exact step_lease_refused h he cause
      | none => exact step_lease_made h he
  | drop i => exact step_drop h i
  | purge =>
    refine ⟨h.cache_step _, h.idleFor, ?_, ?_⟩
    · exact h.held.of_live r.now fun k => Cache.get?_purged h.distinct
    · refine h.fresh.of_stored (Nat.le_refl _) (stored_of_single (x := .purge) ?_ rfl)
      exact fun _ _ hx => by cases hx
  | wait d => exact ⟨h.cache_step _, h.idleFor, h.held, h.fresh⟩

theorem Sound.run (h : r.Sound limit) (ops : List PoolOp) : (r.run ops).Sound limit := by
  induction ops generalizing r with
  | nil => exact h
  | cons o ops ih => exact ih (h.step o)

/-- The client of a lease is not among those that were closed, whatever their keys. -/
theorem Sound.not_mem_closed (h : r.Sound limit) (hl : (key, client) ∈ r.leases) (k : ClientKey) :
    client ∉ r.past.closed k := by
  intro hc
  obtain ⟨n, hn⟩ := h.held.client _ hl
  have hvalues : ∀ k, r.past.stored k =
      r.past.closed k ++ ((r.pool.cache.get? k).map (·.value)).toList := fun k =>
    (h.cache.tracks k).values
  have hkey := hvalues key
  rw [hn] at hkey
  have hstored : client ∈ r.past.stored k := by
    rw [hvalues k]
    exact List.mem_append_left _ hc
  have hcached : client ∈ r.past.stored key := by
    rw [hkey]
    exact List.mem_append_right _ (List.mem_singleton_self client)
  obtain rfl := h.fresh.apart k key client hstored hcached
  have honce := h.fresh.once k
  rw [hkey] at honce
  exact (List.nodup_append.1 honce).2.2 client hc client (List.mem_singleton_self client) rfl

theorem Sound.closed_step (h : r.Sound limit) (hs : (r.step o).past.stored key = r.past.stored key)
    (hg : (r.step o).pool.cache.get? key = r.pool.cache.live? r.now key) :
    (r.step o).past.closed key = r.past.closed key ++
      (((r.pool.cache.get? key).filter (·.isExpired limit r.now)).map (·.value)).toList := by
  have hbefore : r.past.stored key = r.past.closed key ++
      ((r.pool.cache.get? key).map (·.value)).toList := (h.cache.tracks key).values
  have hafter : (r.step o).past.stored key = (r.step o).past.closed key ++
      (((r.step o).pool.cache.get? key).map (·.value)).toList := ((h.step o).cache.tracks key).values
  rw [hs, hbefore, hg, Cache.live?, h.idleFor] at hafter
  cases he : r.pool.cache.get? key with
  | none => simpa [he] using hafter.symm
  | some e =>
    by_cases hx : e.isExpired limit r.now = true
    · simpa [he, hx, Option.filter] using hafter.symm
    · simpa [he, hx, Option.filter] using hafter.symm

structure Lawful (limit : Duration) (r : PoolRun) : Prop where
  leased : ∀ key refusal text e, (r.pool.lease r.now key refusal).1 ≠ .error (.misuse text e)
  returned : ∀ x ∈ r.leases, (r.pool.release r.now x.1).1 = .ok ()
  usage : ∀ key, (r.pool.cache.usage? key).getD 0 = r.leases.countP (·.1 = key)
  shared : ∀ key client client',
    (key, client) ∈ r.leases → (key, client') ∈ r.leases → client = client'
  unclosed : ∀ key client, (key, client) ∈ r.leases → ∀ k, client ∉ r.past.closed k
  dialled : ∀ key refusal, (r.pool.lease r.now key refusal).2.dialled = r.pool.dialled + 1 ↔
    ¬ ∃ e, r.pool.cache.get? key = some e ∧ ∀ v s, e = .idle v s → r.now - s < limit
  undialled : ∀ key refusal, (r.pool.lease r.now key refusal).2.dialled = r.pool.dialled ↔
    ∃ e, r.pool.cache.get? key = some e ∧ ∀ v s, e = .idle v s → r.now - s < limit
  failed : ∀ key refusal e, (r.pool.lease r.now key refusal).1 = .error e → ∀ k,
    (r.pool.lease r.now key refusal).2.cache.get? k =
        (r.pool.cache.get? k).filter (!·.isExpired limit r.now) ∧
      (r.step (.lease key refusal)).past.closed k = r.past.closed k ++
        (((r.pool.cache.get? k).filter (·.isExpired limit r.now)).map (·.value)).toList

theorem Sound.lease_cases (h : r.Sound limit) (key : ClientKey) (refusal : Option RuntimeError) :
    (r.pool.cache.live? r.now key).isSome = true ∧
        (r.pool.lease r.now key refusal).2.dialled = r.pool.dialled ∧
        (∃ client, (r.pool.lease r.now key refusal).1 = .ok client) ∨
      r.pool.cache.live? r.now key = none ∧
        (r.pool.lease r.now key refusal).2.dialled = r.pool.dialled + 1 ∧
        ((∃ client, (r.pool.lease r.now key refusal).1 = .ok client) ∨
          ∃ cause, refusal = some cause ∧
            (r.pool.lease r.now key refusal).1 = .error (.connect key.uri cause)) := by
  cases he : r.pool.cache.live? r.now key with
  | some e =>
    rw [Pool.lease_live h.distinct he]
    exact .inl ⟨rfl, rfl, e.value, rfl⟩
  | none =>
    cases refusal with
    | none =>
      rw [Pool.lease_made h.distinct he]
      exact .inr ⟨rfl, rfl, .inl ⟨_, rfl⟩⟩
    | some cause =>
      rw [Pool.lease_refused h.distinct he]
      exact .inr ⟨rfl, rfl, .inr ⟨cause, rfl, rfl⟩⟩

theorem Sound.lawful (h : r.Sound limit) : Lawful limit r := by
  have hlive : ∀ key, (r.pool.cache.live? r.now key).isSome = true ↔
      ∃ e, r.pool.cache.get? key = some e ∧ ∀ v s, e = .idle v s → r.now - s < limit := fun key => by
    rw [Cache.isSome_live?, h.idleFor]
  refine ⟨fun key refusal text e he => ?_, fun x hx => ?_, h.held.usage, fun key v w hv hw => ?_,
    fun key v hv => h.not_mem_closed hv, fun key refusal => ?_, fun key refusal => ?_,
    fun key refusal e he k => ?_⟩
  · obtain ⟨-, -, client, hc⟩ | ⟨-, -, ⟨client, hc⟩ | ⟨cause, -, hc⟩⟩ := h.lease_cases key refusal
    · cases hc.symm.trans he
    · cases hc.symm.trans he
    · cases hc.symm.trans he
  · obtain ⟨n, hn⟩ := h.held.client x hx
    rw [Pool.release, Cache.release_of_active hn]
    rfl
  · obtain ⟨n, hn⟩ := h.held.client _ hv
    obtain ⟨n', hn'⟩ := h.held.client _ hw
    cases hn.symm.trans hn'
    rfl
  · rw [← hlive]
    obtain ⟨hs, hd, -⟩ | ⟨hs, hd, -⟩ := h.lease_cases key refusal
    · simp [hs, hd]
    · simp [hs, hd]
  · rw [← hlive]
    obtain ⟨hs, hd, -⟩ | ⟨hs, hd, -⟩ := h.lease_cases key refusal
    · simp [hs, hd]
    · simp [hs, hd]
  · obtain ⟨-, -, client, hc⟩ | ⟨hs, -, ⟨client, hc⟩ | ⟨cause, rfl, -⟩⟩ := h.lease_cases key refusal
    · cases hc.symm.trans he
    · cases hc.symm.trans he
    · have hget : (r.pool.lease r.now key (some cause)).2.cache.get? k =
          r.pool.cache.live? r.now k := by
        rw [Pool.lease_refused h.distinct hs, Cache.get?_checkout h.distinct, hs]
        by_cases hk : k = key
        · simp [hk, hs]
        · rw [if_neg hk]
      refine ⟨?_, h.closed_step ?_ hget⟩
      · rw [hget, Cache.live?, h.idleFor]
      · exact stored_of_single (fun _ _ hx => by cases hx) (cacheOps_refused cause) k

theorem run_lawful (limit now : Duration) (ops : List PoolOp) :
    Lawful limit ((start limit now).run ops) :=
  ((sound_start limit now).run ops).lawful

end PoolRun

end ContainerFleet
