import ContainerFleet.Client.Pool
import ContainerFleet.Proofs.Dict

namespace ContainerFleet

namespace CacheEntry

variable {V : Type} {v : V} {u : Nat} {s : Duration}

@[simp] theorem value_active : (active v u).value = v := rfl

@[simp] theorem value_idle : (idle v s).value = v := rfl

@[simp] theorem usage_active : (active v u).usage = u := rfl

@[simp] theorem usage_idle : (idle v s).usage = 0 := rfl

end CacheEntry

namespace Cache

variable {K V : Type} [DecidableEq K] {c : Cache K V} {now : Duration} {k k' : K} {v : V}

def Distinct (c : Cache K V) : Prop := (c.entries.map (·.1)).Nodup

omit [DecidableEq K] in
theorem Distinct.purged (h : c.Distinct) : (c.purged now).Distinct :=
  h.sublist (List.filter_sublist.map _)

theorem Distinct.put (h : c.Distinct) {e : CacheEntry V} : (c.put k e).Distinct := by
  unfold Distinct Cache.put
  rw [List.map_cons, List.nodup_cons]
  refine ⟨fun hk => ?_, h.sublist (List.filter_sublist.map _)⟩
  obtain ⟨x, hx, hxk⟩ := List.mem_map.1 hk
  simpa [hxk] using (List.mem_filter.1 hx).2

def live? (c : Cache K V) (now : Duration) (k : K) : Option (CacheEntry V) :=
  (c.get? k).filter (!·.isExpired c.idleFor now)

theorem live?_eq_some {e : CacheEntry V} :
    c.live? now k = some e ↔ c.get? k = some e ∧ e.isExpired c.idleFor now = false := by
  simp [live?, Option.filter_eq_some_iff]

theorem isSome_live? : (c.live? now k).isSome = true ↔
    ∃ e, c.get? k = some e ∧ ∀ v s, e = .idle v s → now - s < c.idleFor := by
  simp only [Option.isSome_iff_exists, live?_eq_some]
  refine exists_congr fun e => and_congr_right fun _ => ?_
  cases e with
  | active v u => simp [CacheEntry.isExpired]
  | idle v s =>
    simp only [CacheEntry.isExpired, decide_eq_false_iff_not, CacheEntry.idle.injEq]
    constructor
    · rintro h _ _ ⟨rfl, rfl⟩
      exact Nat.lt_of_not_le h
    · exact fun h hle => Nat.not_le_of_lt (h v s ⟨rfl, rfl⟩) hle

theorem live?_of_active {u : Nat} (h : c.get? k = some (.active v u)) :
    c.live? now k = some (.active v u) :=
  live?_eq_some.2 ⟨h, rfl⟩

theorem usage_live? : ((c.live? now k).map (·.usage)).getD 0 = (c.usage? k).getD 0 := by
  unfold usage? live?
  cases c.get? k with
  | none => rfl
  | some e =>
    cases e with
    | active v u => rfl
    | idle v s => by_cases h : c.idleFor ≤ now - s <;> simp [CacheEntry.isExpired, Option.filter, h]

/-- What closing has left is closed later as it would have been without. -/
theorem live?_of_live {c' : Cache K V} {t : Duration} (hl : c'.get? k = c.live? now k)
    (hi : c'.idleFor = c.idleFor) (ht : now ≤ t) : c'.live? t k = c.live? t k := by
  rw [live?, hl, hi, live?, live?]
  cases c.get? k with
  | none => rfl
  | some e =>
    cases e with
    | active v u => rfl
    | idle v s =>
      have hmono : c.idleFor ≤ now - s → c.idleFor ≤ t - s := fun h =>
        Nat.le_trans h (Nat.sub_le_sub_right ht _)
      by_cases hnow : c.idleFor ≤ now - s
      · simp [Option.filter, CacheEntry.isExpired, hnow, hmono hnow]
      · simp [Option.filter, CacheEntry.isExpired, hnow]

@[simp] theorem idleFor_checkout : (c.checkout now k).cache.idleFor = c.idleFor := by
  rw [checkout]
  split <;> rfl

@[simp] theorem idleFor_store : (c.store now k v).cache.idleFor = c.idleFor := by
  rw [store]
  split <;> rfl

@[simp] theorem idleFor_release : (c.release now k).cache.idleFor = c.idleFor := by
  rw [release]
  split <;> rfl

@[simp] theorem get?_hit : c.hit.get? k = c.get? k := rfl

@[simp] theorem get?_miss : c.miss.get? k = c.get? k := rfl

@[simp] theorem get?_put {e : CacheEntry V} :
    (c.put k e).get? k' = if k' = k then some e else c.get? k' := by
  unfold put get?
  rw [Dict.lookup_cons]
  split
  · rfl
  · rename_i h
    induction c.entries with
    | nil => rfl
    | cons x es ih =>
      by_cases hx : x.1 = k
      · have hk : k' ≠ x.1 := fun he => h (he.trans hx)
        rw [List.filter_cons_of_neg (by simp [hx]), Dict.lookup_cons, if_neg hk, ih]
      · rw [List.filter_cons_of_pos (by simp [hx]), Dict.lookup_cons, Dict.lookup_cons, ih]

theorem get?_purged (h : c.Distinct) : (c.purged now).get? k = c.live? now k :=
  Dict.lookup_filter h _

theorem answer_checkout (h : c.Distinct) :
    (c.checkout now k).answer = (c.live? now k).map (·.value) := by
  rw [← get?_purged h, checkout]
  split <;> rename_i hg <;> rw [hg] <;> rfl

theorem get?_checkout (h : c.Distinct) : (c.checkout now k).cache.get? k' =
    if k' = k then (c.live? now k).map fun e => .active e.value (e.usage + 1)
    else c.live? now k' := by
  rw [← get?_purged h, ← get?_purged h, checkout]
  split
  · rename_i hg
    simp [hg]
  · rename_i hg
    by_cases hk : k' = k
    · simp [hk, hg]
    · simp [hk]

theorem Distinct.checkout (h : c.Distinct) : (c.checkout now k).cache.Distinct := by
  rw [Cache.checkout]
  split
  · exact h.purged.put
  · exact h.purged

theorem get?_store (h : c.Distinct) : (c.store now k v).cache.get? k' =
    if k' = k then some ((c.live? now k).getD (.active v 1)) else c.live? now k' := by
  rw [← get?_purged h, ← get?_purged h, store]
  by_cases hk : k' = k
  · subst hk
    cases hg : (c.purged now).get? k' <;> simp [hg]
  · split <;> simp [hk]

theorem Distinct.store (h : c.Distinct) : (c.store now k v).cache.Distinct := by
  rw [Cache.store]
  split
  · exact h.purged
  · exact h.purged.put

theorem get?_checkout_store (h : c.Distinct) (hk : c.live? now k = none) :
    ((c.checkout now k).cache.store now k v).cache.get? k' =
      if k' = k then some (.active v 1) else c.live? now k' := by
  have hlive : (c.checkout now k).cache.live? now k' =
      if k' = k then none else c.live? now k' := by
    unfold live?
    rw [get?_checkout h, hk, idleFor_checkout]
    by_cases hkk : k' = k <;> simp [hkk, live?]
  rw [get?_store h.checkout]
  by_cases hkk : k' = k
  · subst hkk
    rw [if_pos rfl] at hlive
    rw [if_pos rfl, if_pos rfl, hlive]
    rfl
  · rw [if_neg hkk, if_neg hkk, hlive, if_neg hkk]

theorem store_of_error {e : CacheError} (h : (c.store now k v).answer = .error e) :
    (c.store now k v).cache = c.purged now := by
  rw [store] at h ⊢
  by_cases hs : ((c.purged now).get? k).isSome
  · rw [if_pos hs]
  · rw [if_neg hs] at h
    cases h

theorem release_of_active {u : Nat} (h : c.get? k = some (.active v u)) :
    c.release now k = ⟨.ok (), (c.put k (givenBack now v u)).purged now,
      (c.put k (givenBack now v u)).expired now⟩ := by
  rw [release, h]

theorem release_of_not_active (h : ∀ v u, c.get? k ≠ some (.active v u)) :
    c.release now k = ⟨.error .notCheckedOut, c, []⟩ := by
  rw [release]
  split
  · rename_i hg
    exact absurd hg (h _ _)
  · rfl

theorem release_of_error {e : CacheError} (h : (c.release now k).answer = .error e) :
    (c.release now k).cache = c := by
  by_cases ha : ∃ v u, c.get? k = some (.active v u)
  · obtain ⟨v, u, hg⟩ := ha
    rw [release_of_active hg] at h
    cases h
  · rw [release_of_not_active fun v u hg => ha ⟨v, u, hg⟩]

theorem Distinct.release (h : c.Distinct) : (c.release now k).cache.Distinct := by
  rw [Cache.release]
  split
  · exact h.put.purged
  · exact h

theorem store_of_miss (h : (c.checkout now k).answer = none) :
    ((c.checkout now k).cache.store now k v).answer = .ok () := by
  cases hg : (c.purged now).get? k with
  | some e => simp [checkout, hg] at h
  | none =>
    have hagain : ((c.purged now).miss.purged now).get? k = none := by
      rw [← hg]
      simp [get?, purged, miss, List.filter_filter]
    simp [checkout, store, hg, hagain]

omit [DecidableEq K] in
theorem keys_expired_nodup (h : c.Distinct) : ((c.expired now).map (·.1)).Nodup := by
  rw [expired, List.map_map]
  exact h.sublist (List.filter_sublist.map _)

theorem mem_expired (h : c.Distinct) : (k, v) ∈ c.expired now ↔
    ∃ s, c.get? k = some (.idle v s) ∧ c.idleFor ≤ now - s := by
  simp only [expired, List.mem_map, List.mem_filter, Prod.mk.injEq]
  constructor
  · rintro ⟨⟨l, e⟩, ⟨hm, he⟩, rfl, rfl⟩
    cases e with
    | active v u => cases he
    | idle v s => exact ⟨s, (Dict.lookup_eq_some_iff h).2 hm, of_decide_eq_true he⟩
  · rintro ⟨s, hg, hs⟩
    exact ⟨(k, .idle v s), ⟨(Dict.lookup_eq_some_iff h).1 hg, decide_eq_true hs⟩, rfl, rfl⟩

theorem expired_split (h : c.Distinct) {xs ys : List (K × V)}
    (he : c.expired now = xs ++ (k, v) :: ys) :
    (∀ x ∈ xs, x.1 ≠ k) ∧ (∀ x ∈ ys, x.1 ≠ k) ∧
      ∃ s, c.get? k = some (.idle v s) ∧ c.idleFor ≤ now - s := by
  have hn : ((c.expired now).map (·.1)).Nodup := keys_expired_nodup h
  rw [he, List.map_append, List.map_cons] at hn
  obtain ⟨_, hy, hx⟩ := List.nodup_append.1 hn
  refine ⟨fun x hm => hx _ (List.mem_map_of_mem hm) _ List.mem_cons_self, fun x hm hk => ?_, ?_⟩
  · exact (List.nodup_cons.1 hy).1 (List.mem_map.2 ⟨x, hm, hk⟩)
  · rw [← mem_expired h, he]
    simp

end Cache

end ContainerFleet
