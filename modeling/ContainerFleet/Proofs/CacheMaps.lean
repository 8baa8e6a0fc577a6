import ContainerFleet.Proofs.CacheRun
import Mathlib.Data.List.AList

namespace ContainerFleet

structure HeldEntry (V : Type) where
  value : V
  usage : Nat

structure IdleEntry (V : Type) where
  value : V
  since : Duration

/-- A cache that has one map for what is in use and one for what is idle. -/
structure CacheMaps (K V : Type) where
  idleFor : Duration
  held : AList fun _ : K => HeldEntry V := ∅
  idle : AList fun _ : K => IdleEntry V := ∅
  stats : CacheStats := {}

structure MapsTurn (K V α : Type) where
  answer : α
  maps : CacheMaps K V
  closed : List (K × V)

namespace CacheMaps

variable {K V : Type} [DecidableEq K]

def overdue (m : CacheMaps K V) (now : Duration) : List (Sigma fun _ : K => IdleEntry V) :=
  m.idle.entries.filter fun e => m.idleFor ≤ now - e.2.since

def closings (m : CacheMaps K V) (now : Duration) : List (K × V) :=
  (m.overdue now).map fun e => (e.1, e.2.value)

def purged (m : CacheMaps K V) (now : Duration) : CacheMaps K V :=
  { m with
    idle := ((m.overdue now).map (·.1)).foldl (fun idle k => idle.erase k) m.idle
    stats := { m.stats with expirations := m.stats.expirations + (m.overdue now).length } }

def hit (m : CacheMaps K V) : CacheMaps K V :=
  { m with stats := { m.stats with hits := m.stats.hits + 1 } }

def miss (m : CacheMaps K V) : CacheMaps K V :=
  { m with stats := { m.stats with misses := m.stats.misses + 1 } }

def purge (m : CacheMaps K V) (now : Duration) : MapsTurn K V Nat :=
  ⟨(m.overdue now).length, m.purged now, m.closings now⟩

def checkout (m : CacheMaps K V) (now : Duration) (k : K) : MapsTurn K V (Option V) :=
  let p := m.purged now
  match p.held.lookup k with
  | some e =>
    ⟨some e.value, { p with held := p.held.insert k { e with usage := e.usage + 1 } }.hit, m.closings now⟩
  | none => match p.idle.lookup k with
    | some e =>
      ⟨some e.value, { p with held := p.held.insert k ⟨e.value, 1⟩, idle := p.idle.erase k }.hit,
        m.closings now⟩
    | none => ⟨none, p.miss, m.closings now⟩

def store (m : CacheMaps K V) (now : Duration) (k : K) (v : V) :
    MapsTurn K V (Except CacheError Unit) :=
  let p := m.purged now
  if (p.held.lookup k).isSome || (p.idle.lookup k).isSome then
    ⟨.error .alreadyCached, p, m.closings now⟩
  else ⟨.ok (), { p with held := p.held.insert k ⟨v, 1⟩ }, m.closings now⟩

def release (m : CacheMaps K V) (now : Duration) (k : K) : MapsTurn K V (Except CacheError Unit) :=
  match m.held.lookup k with
  | some e =>
    let r :=
      if e.usage - 1 = 0 then
        { m with held := m.held.erase k, idle := m.idle.insert k ⟨e.value, now⟩ }
      else { m with held := m.held.insert k { e with usage := e.usage - 1 } }
    ⟨.ok (), r.purged now, r.closings now⟩
  | none => ⟨.error .notCheckedOut, m, []⟩

def find? (m : CacheMaps K V) (k : K) : Option (CacheEntry V) :=
  match m.held.lookup k with
  | some e => some (.active e.value e.usage)
  | none => (m.idle.lookup k).map fun e => .idle e.value e.since

def usage? (m : CacheMaps K V) (k : K) : Option Nat :=
  match m.held.lookup k with
  | some e => some e.usage
  | none => (m.idle.lookup k).map fun _ => 0

def step (x : Duration × CacheMaps K V) : CacheOp K V → Duration × CacheMaps K V
  | .checkout k => (x.1, (x.2.checkout x.1 k).maps)
  | .store k v => (x.1, (x.2.store x.1 k v).maps)
  | .release k => (x.1, (x.2.release x.1 k).maps)
  | .purge => (x.1, (x.2.purge x.1).maps)
  | .wait d => (x.1 + d, x.2)

def run (limit now : Duration) (ops : List (CacheOp K V)) : Duration × CacheMaps K V :=
  ops.foldl step (now, { idleFor := limit })

/-- The cache holds what the two maps hold, and no key is in both of these. -/
structure Simulates (c : Cache K V) (m : CacheMaps K V) : Prop where
  idleFor : c.idleFor = m.idleFor
  stats : c.stats = m.stats
  entries : ∀ k, c.get? k = m.find? k
  distinct : c.Distinct
  apart : ∀ k, m.held.lookup k = none ∨ m.idle.lookup k = none
  used : ∀ k e, m.held.lookup k = some e → 0 < e.usage

variable {m : CacheMaps K V} {c : Cache K V} {now : Duration} {k l : K} {v : V}

theorem lookup_foldl_erase {β : Type} (ks : List K) (s : AList fun _ : K => β) :
    (ks.foldl (fun s k => s.erase k) s).lookup l = if l ∈ ks then none else s.lookup l := by
  induction ks generalizing s with
  | nil => rfl
  | cons k ks ih =>
    rw [List.foldl_cons, ih]
    by_cases hk : l = k
    · subst hk
      simp
    · simp [hk, AList.lookup_erase_ne]

theorem lookup_insert {β : Type} {s : AList fun _ : K => β} {b : β} :
    (s.insert k b).lookup l = if l = k then some b else s.lookup l := by
  split
  · rename_i h
    rw [h, AList.lookup_insert]
  · rename_i h
    rw [AList.lookup_insert_ne h]

theorem lookup_erase {β : Type} {s : AList fun _ : K => β} :
    (s.erase k).lookup l = if l = k then none else s.lookup l := by
  split
  · rename_i h
    rw [h, AList.lookup_erase]
  · rename_i h
    rw [AList.lookup_erase_ne h]

theorem lookup_of_absent {β : Type} {s : AList fun _ : K => β} (h : s.lookup k = none) (l : K) :
    s.lookup l = if l = k then none else s.lookup l := by
  split
  · rename_i hl
    rw [hl, h]
  · rfl

theorem mem_overdue : k ∈ (m.overdue now).map (·.1) ↔
    ∃ e, m.idle.lookup k = some e ∧ m.idleFor ≤ now - e.since := by
  simp only [overdue, List.mem_map, List.mem_filter, decide_eq_true_eq]
  constructor
  · rintro ⟨⟨l, e⟩, ⟨hm, he⟩, rfl⟩
    exact ⟨e, AList.mem_lookup_iff.2 hm, he⟩
  · rintro ⟨e, hl, he⟩
    exact ⟨⟨k, e⟩, ⟨AList.mem_lookup_iff.1 hl, he⟩, rfl⟩

theorem lookup_purged : (m.purged now).idle.lookup k =
    (m.idle.lookup k).filter fun e => !decide (m.idleFor ≤ now - e.since) := by
  change (((m.overdue now).map (·.1)).foldl (fun s k => s.erase k) m.idle).lookup k = _
  rw [lookup_foldl_erase]
  simp only [mem_overdue]
  cases m.idle.lookup k with
  | none => simp
  | some e => by_cases he : m.idleFor ≤ now - e.since <;> simp [he, Option.filter]

theorem find?_purged : (m.purged now).find? k =
    (m.find? k).filter (!·.isExpired m.idleFor now) := by
  have hheld : (m.purged now).held = m.held := rfl
  rw [find?, find?, hheld, lookup_purged]
  cases m.held.lookup k with
  | some e => rfl
  | none =>
    cases m.idle.lookup k with
    | none => rfl
    | some e => by_cases he : m.idleFor ≤ now - e.since <;> simp [he, Option.filter, CacheEntry.isExpired]

theorem mem_closings : (k, v) ∈ m.closings now ↔
    ∃ e, m.idle.lookup k = some e ∧ e.value = v ∧ m.idleFor ≤ now - e.since := by
  simp only [closings, overdue, List.mem_map, List.mem_filter, decide_eq_true_eq, Prod.mk.injEq]
  constructor
  · rintro ⟨⟨l, e⟩, ⟨hm, he⟩, rfl, rfl⟩
    exact ⟨e, AList.mem_lookup_iff.2 hm, rfl, he⟩
  · rintro ⟨e, hl, rfl, he⟩
    exact ⟨⟨k, e⟩, ⟨AList.mem_lookup_iff.1 hl, he⟩, rfl, rfl⟩

omit [DecidableEq K] in
theorem nodup_closings : (m.closings now).Nodup := by
  refine List.Nodup.of_map (·.1) ?_
  rw [closings, List.map_map]
  exact m.idle.keys_nodup.sublist (List.filter_sublist.map _)

namespace Simulates

theorem not_idle (h : Simulates c m) {e : HeldEntry V} (hk : m.held.lookup k = some e) :
    m.idle.lookup k = none :=
  (h.apart k).resolve_left (by simp [hk])

theorem idle_iff (h : Simulates c m) {s : Duration} :
    c.get? k = some (.idle v s) ↔ m.idle.lookup k = some ⟨v, s⟩ := by
  rw [h.entries, find?]
  cases hk : m.held.lookup k with
  | some e => simp [h.not_idle hk]
  | none =>
    cases m.idle.lookup k with
    | none => simp
    | some e =>
      cases e
      simp

theorem perm_closings (h : Simulates c m) : (c.expired now).Perm (m.closings now) := by
  refine (List.perm_ext_iff_of_nodup ((Cache.keys_expired_nodup h.distinct).of_map _) nodup_closings).2 ?_
  rintro ⟨k, v⟩
  rw [Cache.mem_expired h.distinct, mem_closings, h.idleFor]
  simp only [h.idle_iff]
  constructor
  · rintro ⟨s, hs, hlong⟩
    exact ⟨_, hs, rfl, hlong⟩
  · rintro ⟨e, he, rfl, hlong⟩
    exact ⟨e.since, he, hlong⟩

theorem purged (h : Simulates c m) : Simulates (c.purged now) (m.purged now) where
  idleFor := h.idleFor
  stats := by
    have hlen : (c.expired now).length = (m.overdue now).length :=
      h.perm_closings.length_eq.trans (List.length_map _)
    simp only [Cache.purged, CacheMaps.purged, h.stats, hlen]
  entries := fun k => by
    rw [Cache.get?_purged h.distinct, Cache.live?, h.entries, h.idleFor, find?_purged]
  distinct := h.distinct.purged
  apart := fun k => (h.apart k).imp_right fun hk => by rw [lookup_purged, hk]; rfl
  used := h.used

theorem hold (h : Simulates c m) {u : Nat} (hu : 0 < u) {idle : AList fun _ : K => IdleEntry V}
    (hi : ∀ l, idle.lookup l = if l = k then none else m.idle.lookup l) :
    Simulates (c.put k (.active v u)) { m with held := m.held.insert k ⟨v, u⟩, idle } where
  idleFor := h.idleFor
  stats := h.stats
  entries := fun l => by
    simp only [Cache.get?_put, find?, lookup_insert, hi, h.entries]
    by_cases hl : l = k <;> simp [hl]
  distinct := h.distinct.put
  apart := fun l => by
    simp only [lookup_insert, hi]
    by_cases hl : l = k
    · exact .inr (if_pos hl)
    · simpa [hl] using h.apart l
  used := fun l e he => by
    rw [lookup_insert] at he
    split at he
    · obtain rfl := Option.some.inj he
      exact hu
    · exact h.used l e he

theorem hit (h : Simulates c m) : Simulates c.hit m.hit :=
  ⟨h.idleFor, congrArg (fun s : CacheStats => { s with hits := s.hits + 1 }) h.stats, h.entries, h.distinct,
    h.apart, h.used⟩

theorem miss (h : Simulates c m) : Simulates c.miss m.miss :=
  ⟨h.idleFor, congrArg (fun s : CacheStats => { s with misses := s.misses + 1 }) h.stats, h.entries,
    h.distinct, h.apart, h.used⟩

theorem checkout (h : Simulates c m) :
    (c.checkout now k).answer = (m.checkout now k).answer ∧
      (c.checkout now k).closed.Perm (m.checkout now k).closed ∧
      Simulates (c.checkout now k).cache (m.checkout now k).maps := by
  have hp : Simulates (c.purged now) (m.purged now) := h.purged
  have hget := hp.entries k
  rw [find?] at hget
  rw [Cache.checkout, CacheMaps.checkout]
  cases hk : (m.purged now).held.lookup k with
  | some e =>
    rw [hk] at hget
    simp only [hget, CacheEntry.value, CacheEntry.usage]
    exact ⟨trivial, h.perm_closings, (hp.hold (Nat.succ_pos _) (lookup_of_absent (hp.not_idle hk))).hit⟩
  | none =>
    rw [hk] at hget
    cases hi : (m.purged now).idle.lookup k with
    | some e =>
      rw [hi] at hget
      simp only [hget, Option.map_some, CacheEntry.value, CacheEntry.usage]
      exact ⟨trivial, h.perm_closings, (hp.hold Nat.one_pos fun l => lookup_erase).hit⟩
    | none =>
      rw [hi] at hget
      simp only [hget, Option.map_none]
      exact ⟨trivial, h.perm_closings, hp.miss⟩

theorem store (h : Simulates c m) :
    (c.store now k v).answer = (m.store now k v).answer ∧
      (c.store now k v).closed.Perm (m.store now k v).closed ∧
      Simulates (c.store now k v).cache (m.store now k v).maps := by
  have hp : Simulates (c.purged now) (m.purged now) := h.purged
  have hget := hp.entries k
  rw [find?] at hget
  rw [Cache.store, CacheMaps.store]
  cases hk : (m.purged now).held.lookup k with
  | some e =>
    rw [hk] at hget
    simp only [hget, Option.isSome_some, Bool.true_or, if_true]
    exact ⟨trivial, h.perm_closings, hp⟩
  | none =>
    rw [hk] at hget
    cases hi : (m.purged now).idle.lookup k with
    | some e =>
      rw [hi] at hget
      simp only [hget, Option.map_some, Option.isSome_some, Bool.or_true, if_true]
      exact ⟨trivial, h.perm_closings, hp⟩
    | none =>
      rw [hi] at hget
      simp only [hget, Option.map_none, Option.isSome_none, Bool.or_false, Bool.false_eq_true, if_false]
      exact ⟨trivial, h.perm_closings, hp.hold Nat.one_pos (lookup_of_absent hi)⟩

theorem rest (h : Simulates c m) :
    Simulates (c.put k (.idle v now))
      { m with held := m.held.erase k, idle := m.idle.insert k ⟨v, now⟩ } where
  idleFor := h.idleFor
  stats := h.stats
  entries := fun l => by
    simp only [Cache.get?_put, find?, lookup_insert, lookup_erase, h.entries]
    by_cases hl : l = k <;> simp [hl]
  distinct := h.distinct.put
  apart := fun l => by
    simp only [lookup_insert, lookup_erase]
    by_cases hl : l = k
    · exact .inl (if_pos hl)
    · simpa [hl] using h.apart l
  used := fun l e he => by
    rw [lookup_erase] at he
    split at he
    · cases he
    · exact h.used l e he

theorem release (h : Simulates c m) :
    (c.release now k).answer = (m.release now k).answer ∧
      (c.release now k).closed.Perm (m.release now k).closed ∧
      Simulates (c.release now k).cache (m.release now k).maps := by
  have hget := h.entries k
  rw [find?] at hget
  cases hk : m.held.lookup k with
  | none =>
    rw [hk] at hget
    -- The key may be idle: then it has an entry, but nobody holds it.
    have hfree : ∀ v u, c.get? k ≠ some (.active v u) := by
      intro v u hv
      rw [hget] at hv
      cases hi : m.idle.lookup k <;> simp [hi] at hv
    rw [Cache.release_of_not_active hfree, CacheMaps.release, hk]
    exact ⟨rfl, .refl _, h⟩
  | some e =>
    rw [hk] at hget
    have hu := h.used k e hk
    rw [Cache.release_of_active hget, CacheMaps.release, hk]
    by_cases hlast : e.usage ≤ 1
    · have hzero : e.usage - 1 = 0 := Nat.sub_eq_zero_of_le hlast
      have hrest : Simulates (c.put k (.idle e.value now))
          { m with held := m.held.erase k, idle := m.idle.insert k ⟨e.value, now⟩ } := h.rest
      simp only [Cache.givenBack, if_pos hlast, if_pos hzero]
      exact ⟨trivial, hrest.perm_closings, hrest.purged⟩
    · have hmore : ¬ e.usage - 1 = 0 := by omega
      have hhold : Simulates (c.put k (.active e.value (e.usage - 1)))
          { m with held := m.held.insert k ⟨e.value, e.usage - 1⟩ } :=
        h.hold (Nat.pos_of_ne_zero hmore) (lookup_of_absent (h.not_idle hk))
      simp only [Cache.givenBack, if_neg hlast, if_neg hmore]
      exact ⟨trivial, hhold.perm_closings, hhold.purged⟩

theorem purge (h : Simulates c m) :
    (c.purge now).answer = (m.purge now).answer ∧ (c.purge now).closed.Perm (m.purge now).closed ∧
      Simulates (c.purge now).cache (m.purge now).maps :=
  ⟨h.perm_closings.length_eq.trans (List.length_map _), h.perm_closings, h.purged⟩

theorem sizes (h : Simulates c m) :
    c.activeSize = m.held.keys.length ∧ c.idleSize = m.idle.keys.length := by
  -- The entries of one kind have the keys of its map, and both sides hold each key once.
  have hkeys (p : CacheEntry V → Bool) (k : K) : k ∈ (c.entries.filter (p ·.2)).map (·.1) ↔
      ∃ e, m.find? k = some e ∧ p e = true := by
    simp only [← h.entries, Cache.get?, Dict.lookup_eq_some_iff h.distinct, List.mem_map, List.mem_filter]
    constructor
    · rintro ⟨⟨l, e⟩, he, rfl⟩
      exact ⟨e, he⟩
    · rintro ⟨e, he⟩
      exact ⟨⟨k, e⟩, he, rfl⟩
  have hnodup (p : CacheEntry V → Bool) : ((c.entries.filter (p ·.2)).map (·.1)).Nodup :=
    h.distinct.sublist (List.filter_sublist.map _)
  constructor
  · rw [Cache.activeSize, List.countP_eq_length_filter, ← List.length_map (·.1)]
    refine ((List.perm_ext_iff_of_nodup (hnodup _) m.held.keys_nodup).2 fun k => ?_).length_eq
    rw [hkeys, ← AList.mem_keys, ← AList.lookup_isSome, find?]
    cases m.held.lookup k with
    | some e => simp [CacheEntry.isActive]
    | none => cases m.idle.lookup k <;> simp [CacheEntry.isActive]
  · rw [Cache.idleSize, List.countP_eq_length_filter, ← List.length_map (·.1)]
    refine ((List.perm_ext_iff_of_nodup (hnodup (!·.isActive)) m.idle.keys_nodup).2 fun k => ?_).length_eq
    rw [hkeys (!·.isActive), ← AList.mem_keys, ← AList.lookup_isSome, find?]
    obtain hk | hk := h.apart k
    · rw [hk]
      cases m.idle.lookup k <;> simp [CacheEntry.isActive]
    · rw [hk]
      cases m.held.lookup k <;> simp [CacheEntry.isActive]

theorem usage (h : Simulates c m) : c.usage? k = m.usage? k := by
  rw [Cache.usage?, h.entries, find?, usage?]
  cases m.held.lookup k with
  | some e => rfl
  | none => rw [Option.map_map]; rfl

theorem step {r : CacheRun K V} {x : Duration × CacheMaps K V} (hnow : r.now = x.1)
    (h : Simulates r.cache x.2) (o : CacheOp K V) :
    (r.step o).now = (step x o).1 ∧ Simulates (r.step o).cache (step x o).2 := by
  obtain ⟨now, m⟩ := x
  subst hnow
  cases o with
  | checkout k => exact ⟨rfl, h.checkout.2.2⟩
  | store k v => exact ⟨rfl, h.store.2.2⟩
  | release k => exact ⟨rfl, h.release.2.2⟩
  | purge => exact ⟨rfl, h.purge.2.2⟩
  | wait d => exact ⟨rfl, h⟩

end Simulates

/-- After every run of operations from new ones the cache holds what the two maps hold. No key is ever in both
of these. -/
theorem run_simulates (limit now : Duration) (ops : List (CacheOp K V)) :
    ((CacheRun.start limit now).run ops).now = (run limit now ops).1 ∧
      Simulates ((CacheRun.start limit now).run ops).cache (run limit now ops).2 := by
  induction ops using List.reverseRecOn with
  | nil => exact ⟨rfl, rfl, rfl, fun _ => rfl, List.nodup_nil, fun _ => .inl rfl, fun _ _ h => by cases h⟩
  | append_singleton ops o ih =>
    rw [CacheRun.run_concat, run, List.foldl_concat]
    exact ih.2.step ih.1 o

end CacheMaps

end ContainerFleet
