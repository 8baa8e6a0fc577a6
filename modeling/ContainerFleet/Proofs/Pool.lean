import ContainerFleet.Fleet.State
import ContainerFleet.Proofs.Cache

namespace ContainerFleet

namespace Pool

variable {p : Pool} {now : Duration} {key : ClientKey}

theorem lease_live {e : CacheEntry Client} (h : p.cache.Distinct)
    (he : p.cache.live? now key = some e) (refusal : Option RuntimeError) :
    p.lease now key refusal = (.ok e.value, { p with cache := (p.cache.checkout now key).cache }) := by
  have ha : (p.cache.checkout now key).answer = (p.cache.live? now key).map (·.value) :=
    Cache.answer_checkout h
  rw [he] at ha
  simp only [lease, ha, Option.map_some]

theorem lease_refused (h : p.cache.Distinct) (he : p.cache.live? now key = none)
    (cause : RuntimeError) :
    p.lease now key (some cause) = (.error (.connect key.uri cause),
      { cache := (p.cache.checkout now key).cache, dialled := p.dialled + 1 }) := by
  have ha : (p.cache.checkout now key).answer = (p.cache.live? now key).map (·.value) :=
    Cache.answer_checkout h
  rw [he] at ha
  simp only [lease, ha, Option.map_none]

theorem lease_made (h : p.cache.Distinct) (he : p.cache.live? now key = none) :
    p.lease now key none = (.ok ⟨key.uri, p.dialled⟩,
      { cache := ((p.cache.checkout now key).cache.store now key ⟨key.uri, p.dialled⟩).cache
        dialled := p.dialled + 1 }) := by
  have ha : (p.cache.checkout now key).answer = (p.cache.live? now key).map (·.value) :=
    Cache.answer_checkout h
  rw [he] at ha
  simp only [lease, ha, Option.map_none, Cache.store_of_miss ha]

theorem lease_ok : ∃ client, (p.lease now key none).1 = .ok client := by
  cases ha : (p.cache.checkout now key).answer with
  | some client => exact ⟨client, by simp only [lease, ha]⟩
  | none => exact ⟨⟨key.uri, p.dialled⟩, by simp only [lease, ha, Cache.store_of_miss ha]⟩

section

variable {key' : ClientKey} {refusal : Option RuntimeError} {t : Duration}

theorem distinct_lease (h : p.cache.Distinct) : (p.lease now key refusal).2.cache.Distinct := by
  cases he : p.cache.live? now key with
  | some e =>
    rw [lease_live h he]
    exact h.checkout
  | none =>
    cases refusal with
    | none =>
      rw [lease_made h he]
      exact h.checkout.store
    | some cause =>
      rw [lease_refused h he]
      exact h.checkout

theorem distinct_release (h : p.cache.Distinct) : (p.release now key).2.cache.Distinct := h.release

@[simp] theorem idleFor_lease : (p.lease now key refusal).2.cache.idleFor = p.cache.idleFor := by
  simp only [lease]
  split
  · exact Cache.idleFor_checkout
  · split
    · exact Cache.idleFor_checkout
    · rw [Cache.idleFor_store, Cache.idleFor_checkout]

@[simp] theorem idleFor_release : (p.release now key).2.cache.idleFor = p.cache.idleFor :=
  Cache.idleFor_release

theorem live?_lease_of_ne (h : p.cache.Distinct) (hk : key' ≠ key) (ht : now ≤ t) :
    (p.lease now key refusal).2.cache.live? t key' = p.cache.live? t key' := by
  refine Cache.live?_of_live ?_ idleFor_lease ht
  cases he : p.cache.live? now key with
  | some e => rw [lease_live h he, Cache.get?_checkout h, if_neg hk]
  | none =>
    cases refusal with
    | none => rw [lease_made h he, Cache.get?_checkout_store h he, if_neg hk]
    | some cause => rw [lease_refused h he, Cache.get?_checkout h, if_neg hk]

theorem live?_release_of_ne (h : p.cache.Distinct) (hk : key' ≠ key) (ht : now ≤ t) :
    (p.release now key).2.cache.live? t key' = p.cache.live? t key' := by
  by_cases ha : ∃ v u, p.cache.get? key = some (.active v u)
  · obtain ⟨v, u, hg⟩ := ha
    have hcache : (p.release now key).2.cache =
        (p.cache.put key (Cache.givenBack now v u)).purged now := by
      rw [release, Cache.release_of_active hg]
    have hput : (p.cache.put key (Cache.givenBack now v u)).get? key' = p.cache.get? key' := by
      rw [Cache.get?_put, if_neg hk]
    refine Cache.live?_of_live ?_ idleFor_release ht
    rw [hcache, Cache.get?_purged h.put, Cache.live?, hput]
    rfl
  · have hcache : (p.release now key).2.cache = p.cache := by
      rw [release, Cache.release_of_not_active fun v u hg => ha ⟨v, u, hg⟩]
    rw [hcache]

theorem isSome_live?_lease (h : p.cache.Distinct) (cause : RuntimeError) :
    ((p.lease now key (some cause)).2.cache.live? now key).isSome =
      (p.cache.live? now key).isSome := by
  cases he : p.cache.live? now key with
  | some e =>
    have hg : (p.lease now key (some cause)).2.cache.get? key =
        some (.active e.value (e.usage + 1)) := by
      rw [lease_live h he, Cache.get?_checkout h, if_pos rfl, he]
      rfl
    rw [Cache.live?_of_active hg]
    rfl
  | none =>
    have hg : (p.lease now key (some cause)).2.cache.get? key = none := by
      rw [lease_refused h he, Cache.get?_checkout h, if_pos rfl, he]
      rfl
    rw [Cache.live?, hg]
    rfl

end

end Pool

def State.refused? (s : State) (m : Moment) (c : Cloud) : Option PoolError :=
  if (s.pool.cache.live? m.ticks c.endpoint).isSome then none
  else (m.refusal c.endpoint).map (.connect c.endpoint.uri)

theorem State.lease_answer {s : State} {m : Moment} {c : Cloud} (h : s.pool.cache.Distinct) :
    (s.refused? m c = none ∧ ∃ client, (s.lease m c).1 = .ok client) ∨
      ∃ e, s.refused? m c = some e ∧ (s.lease m c).1 = .error e := by
  rw [refused?, lease]
  cases he : s.pool.cache.live? m.ticks c.endpoint with
  | some e =>
    rw [Pool.lease_live h he]
    exact .inl ⟨rfl, _, rfl⟩
  | none =>
    cases hr : m.refusal c.endpoint with
    | none =>
      rw [Pool.lease_made h he]
      exact .inl ⟨rfl, _, rfl⟩
    | some cause =>
      rw [Pool.lease_refused h he]
      exact .inr ⟨_, rfl, rfl⟩

theorem State.lease_ok {s : State} {m : Moment} {c : Cloud} (h : m.refusal c.endpoint = none) :
    ∃ client, (s.lease m c).1 = .ok client := by
  rw [State.lease, h]
  exact Pool.lease_ok

end ContainerFleet
