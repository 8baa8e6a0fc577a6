import ContainerFleet.Proofs.CacheRun
import Mathlib.Data.List.Perm.Basic

namespace ContainerFleet

def CacheOp.isPurge {K V : Type} : CacheOp K V → Bool
  | purge => true
  | _ => false

theorem CacheOp.eq_purge {K V : Type} {o : CacheOp K V} (h : o.isPurge = true) : o = .purge := by
  cases o with
  | purge => rfl
  | _ => cases h

inductive CacheAnswer (V : Type) where
  | checkout (found : Option V)
  | store (r : Except CacheError Unit)
  | release (r : Except CacheError Unit)

variable {K V : Type}

def CacheEvent.closing? : CacheEvent K V → Option (K × V)
  | closed k v => some (k, v)
  | _ => none

def CachePast.allClosed (past : CachePast K V) : List (K × V) := past.filterMap (·.2.closing?)

theorem CachePast.allClosed_append {past new : CachePast K V} :
    allClosed (past ++ new) = past.allClosed ++ new.allClosed := List.filterMap_append

namespace CacheEntry

variable {e : CacheEntry V} {limit now t : Duration}

theorem isExpired_later (ht : now ≤ t) (h : e.isExpired limit now = true) :
    e.isExpired limit t = true := by
  cases e with
  | active v u => cases h
  | idle v s =>
    have hle : limit ≤ now - s := of_decide_eq_true h
    exact decide_eq_true (Nat.le_trans hle (Nat.sub_le_sub_right ht _))

end CacheEntry

namespace Cache

variable [DecidableEq K] {c : Cache K V} {now t : Duration} {k : K} {v : V} {e : CacheEntry V}

omit [DecidableEq K] in
theorem expired_later (ht : now ≤ t) :
    (c.expired t).Perm (c.expired now ++ (c.purged now).expired t) := by
  simp only [expired, purged, ← List.map_append]
  refine List.Perm.map _ ?_
  refine (List.filter_append_perm (·.2.isExpired c.idleFor now) _).symm.trans (.of_eq ?_)
  rw [List.filter_filter, List.filter_filter, List.filter_filter]
  -- All that is due at the earlier time is due at the later one, so that one test is left for it.
  congr 1
  · refine List.filter_congr fun x _ => ?_
    cases hx : x.2.isExpired c.idleFor now with
    | true => simp [CacheEntry.isExpired_later ht hx]
    | false => rfl
  · exact List.filter_congr fun x _ => Bool.and_comm ..

omit [DecidableEq K] in
theorem purged_congr {d : Cache K V} (hidle : c.idleFor = d.idleFor)
    (hentries : (c.purged t).entries = (d.purged t).entries) (hhits : c.stats.hits = d.stats.hits)
    (hmisses : c.stats.misses = d.stats.misses)
    (hexpired : c.stats.expirations + (c.expired t).length =
      d.stats.expirations + (d.expired t).length) : c.purged t = d.purged t := by
  obtain ⟨limit, es, hits, misses, n⟩ := c
  obtain ⟨limit', es', hits', misses', n'⟩ := d
  simp only [purged] at *
  subst hidle hhits hmisses
  rw [hentries, hexpired]

omit [DecidableEq K] in
theorem purged_later (ht : now ≤ t) : (c.purged now).purged t = c.purged t := by
  refine purged_congr rfl ?_ rfl rfl ?_
  · simp only [purged, List.filter_filter]
    refine List.filter_congr fun x _ => ?_
    cases hx : x.2.isExpired c.idleFor now with
    | true => simp [CacheEntry.isExpired_later ht hx]
    | false => simp
  · have hlength := (expired_later (c := c) ht).length_eq
    rw [List.length_append] at hlength
    simp only [purged] at hlength ⊢
    omega

omit [DecidableEq K] in
@[simp] theorem purged_purged : (c.purged now).purged now = c.purged now :=
  purged_later (Nat.le_refl _)

omit [DecidableEq K] in
@[simp] theorem expired_purged : (c.purged now).expired now = [] := by
  simp [expired, purged, List.filter_filter]

omit [DecidableEq K] in
theorem purge_purged : (c.purged now).purge now = ⟨0, c.purged now, []⟩ := by
  simp [purge]

theorem closed_checkout : (c.checkout now k).closed = c.expired now := by
  rw [checkout]
  split <;> rfl

theorem closed_store : (c.store now k v).closed = c.expired now := by
  rw [store]
  split <;> rfl

theorem checkout_purged : (c.purged now).checkout now k = { c.checkout now k with closed := [] } := by
  simp only [checkout, purged_purged, expired_purged]
  split <;> rfl

theorem store_purged : (c.purged now).store now k v = { c.store now k v with closed := [] } := by
  simp only [store, purged_purged, expired_purged]
  split <;> rfl

theorem expired_put (h : c.Distinct) {u : Nat} (hk : c.get? k = some (.active v u)) :
    (c.put k e).expired now =
      (if e.isExpired c.idleFor now then [(k, e.value)] else []) ++ c.expired now := by
  have hrest : (c.entries.filter (·.1 ≠ k)).filter (·.2.isExpired c.idleFor now) =
      c.entries.filter (·.2.isExpired c.idleFor now) := by
    rw [List.filter_filter]
    refine List.filter_congr fun x hx => ?_
    by_cases hxk : x.1 = k
    · have hget : c.get? k = some x.2 := hxk ▸ (Dict.lookup_eq_some_iff h).2 hx
      rw [hk] at hget
      rw [← Option.some.inj hget]
      rfl
    · simp [hxk]
  simp only [expired, put]
  rw [List.filter_cons, hrest]
  split <;> simp

/-- A purge before a value is given back makes no difference to the purge after it. -/
theorem purged_put (now : Duration) (e : CacheEntry V) (h : c.Distinct) {u : Nat}
    (hk : c.get? k = some (.active v u)) :
    ((c.purged now).put k e).purged now = (c.put k e).purged now ∧
      ((c.put k e).expired now).Perm (c.expired now ++ ((c.purged now).put k e).expired now) := by
  have hk' : (c.purged now).get? k = some (.active v u) := by
    rw [get?_purged h, live?_of_active hk]
  have hperm : ((c.put k e).expired now).Perm
      (c.expired now ++ ((c.purged now).put k e).expired now) := by
    rw [expired_put h hk, expired_put h.purged hk', expired_purged, List.append_nil]
    exact List.perm_append_comm
  refine ⟨purged_congr rfl ?_ rfl rfl ?_, hperm⟩
  · have hrest : ∀ p q : K × CacheEntry V → Bool, ((c.entries.filter p).filter q).filter p =
        (c.entries.filter q).filter p := by
      intro p q
      simp only [List.filter_filter]
      refine List.filter_congr fun x _ => ?_
      cases p x <;> simp
    simp only [purged, put, List.filter_cons, hrest]
  · have hlength := hperm.length_eq
    rw [List.length_append] at hlength
    simp only [purged, put] at hlength ⊢
    omega

end Cache

namespace CacheRun

variable [DecidableEq K] {r b : CacheRun K V} {o : CacheOp K V} {ops : List (CacheOp K V)} {k : K}

/-- What an operation answers; a purge and the clock are left out. -/
def answer? (r : CacheRun K V) : CacheOp K V → Option (CacheAnswer V)
  | .checkout k => some (.checkout (r.cache.checkout r.now k).answer)
  | .store k v => some (.store (r.cache.store r.now k v).answer)
  | .release k => some (.release (r.cache.release r.now k).answer)
  | .purge | .wait _ => none

def answers (r : CacheRun K V) : List (CacheOp K V) → List (CacheAnswer V)
  | [] => []
  | o :: ops => (r.answer? o).toList ++ (r.step o).answers ops

omit [DecidableEq K] in
theorem allClosed_closingsOf (xs : List (K × V)) (t : Duration) :
    CachePast.allClosed ((closingsOf xs).map (t, ·)) = xs := by
  induction xs with
  | nil => rfl
  | cons x xs ih => exact congrArg (x :: ·) ih

omit [DecidableEq K] in
theorem allClosed_purged :
    r.purged.past.allClosed = r.past.allClosed ++ r.cache.expired r.now := by
  rw [purged, past_record, CachePast.allClosed_append, allClosed_closingsOf]

/-- After a purge of both no difference is left. -/
structure Alike (r b : CacheRun K V) : Prop where
  now : r.now = b.now
  cache : r.cache.purged r.now = b.cache.purged b.now
  closed : (r.past.allClosed ++ r.cache.expired r.now).Perm
    (b.past.allClosed ++ b.cache.expired b.now)

namespace Alike

omit [DecidableEq K]

theorem refl (r : CacheRun K V) : r.Alike r := ⟨rfl, rfl, .refl _⟩

theorem symm (h : r.Alike b) : b.Alike r := ⟨h.now.symm, h.cache.symm, h.closed.symm⟩

theorem trans {s : CacheRun K V} (h : r.Alike b) (h' : b.Alike s) : r.Alike s :=
  ⟨h.now.trans h'.now, h.cache.trans h'.cache, h.closed.trans h'.closed⟩

theorem purged : r.purged.Alike r := by
  have hexpired : r.purged.cache.expired r.now = [] := Cache.expired_purged
  refine ⟨rfl, Cache.purged_purged, .of_eq ?_⟩
  rw [allClosed_purged]
  exact (congrArg _ hexpired).trans (List.append_nil _)

end Alike

theorem step_congr {now : Duration} {c : Cache K V} {past past' : CachePast K V}
    (h : past.allClosed.Perm past'.allClosed) (o : CacheOp K V) :
    (step ⟨now, c, past⟩ o).Alike (step ⟨now, c, past'⟩ o) := by
  have hrecord : ∀ (d : Cache K V) (new : CachePast K V),
      Alike ⟨now, d, past ++ new⟩ ⟨now, d, past' ++ new⟩ := by
    refine fun d new => ⟨rfl, rfl, ?_⟩
    simp only [CachePast.allClosed_append]
    exact (h.append_right _).append_right _
  cases o with
  | wait d => exact ⟨rfl, rfl, h.append_right _⟩
  | _ => exact hrecord _ _

theorem step_checkout_purged : r.purged.step (.checkout k) = r.step (.checkout k) := by
  have ht : r.purged.cache.checkout r.purged.now k = { r.cache.checkout r.now k with closed := [] } :=
    Cache.checkout_purged
  simp only [step, ht, Cache.closed_checkout]
  rw [purged, record_record]
  rfl

theorem step_store_purged {v : V} : r.purged.step (.store k v) = r.step (.store k v) := by
  have ht : r.purged.cache.store r.purged.now k v = { r.cache.store r.now k v with closed := [] } :=
    Cache.store_purged
  simp only [step, ht, Cache.closed_store]
  rw [purged, record_record]
  rfl

theorem step_release_of_active {v : V} {u : Nat} (h : r.cache.get? k = some (.active v u)) :
    r.step (.release k) =
      (r.record (r.cache.put k (Cache.givenBack r.now v u)) [.released k]).purged := by
  rw [purged, record_record, step, Cache.release_of_active h]
  rfl

theorem step_release_of_not_active (h : ∀ v u, r.cache.get? k ≠ some (.active v u)) :
    r.step (.release k) = r := by
  rw [step, Cache.release_of_not_active h]
  exact congrArg (CacheRun.mk _ _) (List.append_nil _)

theorem step_release_purged (h : r.Sound) :
    (r.purged.step (.release k)).Alike (r.step (.release k)) := by
  by_cases ha : ∃ v u, r.cache.get? k = some (.active v u)
  · obtain ⟨v, u, ha⟩ := ha
    obtain ⟨hcache, hexpired⟩ :=
      Cache.purged_put r.now (Cache.givenBack r.now v u) h.distinct ha
    have hpast : ∀ (x : CacheRun K V) (c : Cache K V),
        (x.record c [.released k]).past.allClosed = x.past.allClosed := fun x c => by
      rw [past_record, CachePast.allClosed_append]
      exact List.append_nil _
    -- What is due is closed before the value is given back or after it.
    have hput : (r.purged.record (r.purged.cache.put k (Cache.givenBack r.now v u)) [.released k]).Alike
        (r.record (r.cache.put k (Cache.givenBack r.now v u)) [.released k]) := by
      refine ⟨rfl, hcache, ?_⟩
      rw [hpast, hpast, allClosed_purged, List.append_assoc]
      exact hexpired.symm.append_left _
    rw [step_release_of_active ha, step_release_of_active ((get?_purged_active h).2 ha)]
    exact Alike.purged.trans (hput.trans Alike.purged.symm)
  · have hfree : ∀ v u, r.cache.get? k ≠ some (.active v u) := fun v u hk => ha ⟨v, u, hk⟩
    have hfree' : ∀ v u, r.purged.cache.get? k ≠ some (.active v u) :=
      fun v u hk => hfree v u ((get?_purged_active h).1 hk)
    rw [step_release_of_not_active hfree, step_release_of_not_active hfree']
    exact .purged

theorem step_wait_purged (d : Duration) : (r.purged.step (.wait d)).Alike (r.step (.wait d)) := by
  have ht : r.now ≤ r.now + d := Nat.le_add_right ..
  have hpast : (r.purged.step (.wait d)).past.allClosed =
      r.past.allClosed ++ r.cache.expired r.now := allClosed_purged
  refine ⟨rfl, Cache.purged_later ht, ?_⟩
  rw [hpast, List.append_assoc]
  exact (Cache.expired_later ht).symm.append_left _

/-- Whether the cache is purged before an operation does not matter afterwards. -/
theorem step_purged (h : r.Sound) (o : CacheOp K V) : (r.purged.step o).Alike (r.step o) := by
  cases o with
  | checkout k => exact step_checkout_purged (r := r) ▸ .refl _
  | store k v => exact step_store_purged (r := r) ▸ .refl _
  | release k => exact step_release_purged h
  | purge => exact .purged
  | wait d => exact step_wait_purged d

theorem answer?_purged (h : r.Sound) (o : CacheOp K V) : r.purged.answer? o = r.answer? o := by
  have hcache : r.purged.cache = r.cache.purged r.now := rfl
  have hnow : r.purged.now = r.now := rfl
  cases o with
  | checkout k => simp only [answer?, hcache, hnow, Cache.checkout_purged]
  | store k v => simp only [answer?, hcache, hnow, Cache.store_purged]
  | release k =>
    by_cases ha : ∃ v u, r.cache.get? k = some (.active v u)
    · obtain ⟨v, u, ha⟩ := ha
      rw [answer?, answer?, Cache.release_of_active ha,
        Cache.release_of_active ((get?_purged_active h).2 ha)]
    · have hfree : ∀ v u, r.cache.get? k ≠ some (.active v u) := fun v u hk => ha ⟨v, u, hk⟩
      rw [answer?, answer?, Cache.release_of_not_active hfree, Cache.release_of_not_active
        fun v u hk => hfree v u ((get?_purged_active h).1 hk)]
  | purge | wait d => rfl

namespace Alike

theorem answer? (h : r.Alike b) (hr : r.Sound) (hb : b.Sound) (o : CacheOp K V) :
    r.answer? o = b.answer? o := by
  have hnow : r.purged.now = b.purged.now := h.now
  have hcache : r.purged.cache = b.purged.cache := h.cache
  rw [← answer?_purged hr, ← answer?_purged hb]
  cases o <;> simp only [CacheRun.answer?, hnow, hcache]

theorem step (h : r.Alike b) (hr : r.Sound) (hb : b.Sound) (o : CacheOp K V) :
    (r.step o).Alike (b.step o) := by
  -- Purged, both have the same cache and differ in their past only.
  have hmid : (r.purged.step o).Alike (b.purged.step o) := by
    have hnow : r.purged.now = b.purged.now := h.now
    have hcache : r.purged.cache = b.purged.cache := h.cache
    have hclosed : r.purged.past.allClosed.Perm b.purged.past.allClosed := by
      simpa only [allClosed_purged] using h.closed
    have hb : b.purged = ⟨r.purged.now, r.purged.cache, b.purged.past⟩ := by rw [hnow, hcache]
    rw [hb]
    exact step_congr hclosed o
  exact (step_purged hr o).symm.trans (hmid.trans (step_purged hb o))

end Alike

/-- Operations answer as they would have without the purges among them, and leave no difference. -/
theorem alike_run (h : r.Alike b) (hr : r.Sound) (hb : b.Sound) (ops : List (CacheOp K V)) :
    r.answers ops = b.answers (ops.filter (!·.isPurge)) ∧
      (r.run ops).Alike (b.run (ops.filter (!·.isPurge))) := by
  induction ops generalizing r b with
  | nil => exact ⟨rfl, h⟩
  | cons o ops ih =>
    have hr' : (r.step o).Sound := hr.step (step_cases r o)
    cases ho : o.isPurge with
    | true =>
      obtain rfl := CacheOp.eq_purge ho
      have hstep : (r.step .purge).Alike b := Alike.purged.trans h
      simpa [answers, run, CacheOp.isPurge, CacheRun.answer?] using ih hstep hr' hb
    | false =>
      have hb' : (b.step o).Sound := hb.step (step_cases b o)
      have hrest := ih (h.step hr hb o) hr' hb'
      simpa [answers, run, ho, h.answer? hr hb o] using hrest

/-- Purges among the operations of a cache change neither what checkouts, stores and releases answer nor how
many of them found a value, and after a last purge the same values are cached and the same have been closed;
a purge right after it closes nothing. -/
theorem purges_unseen (limit now : Duration) (ops : List (CacheOp K V)) :
    let bare := ops.filter (!·.isPurge)
    let s : CacheRun K V := start limit now
    let r := s.run ops
    let b := s.run bare
    s.answers ops = s.answers bare ∧
    r.cache.stats.hits = b.cache.stats.hits ∧ r.cache.stats.misses = b.cache.stats.misses ∧
    (r.step .purge).cache = (b.step .purge).cache ∧
    (r.step .purge).past.allClosed.Perm (b.step .purge).past.allClosed ∧
    (r.step .purge).cache.purge r.now = ⟨0, (r.step .purge).cache, []⟩ := by
  intro bare s r b
  have hs : s.Sound := sound_start limit now
  obtain ⟨hanswers, halike⟩ := alike_run (Alike.refl s) hs hs ops
  refine ⟨hanswers, ?_, ?_, halike.cache, ?_, Cache.purge_purged⟩
  · exact congrArg (·.stats.hits) halike.cache
  · exact congrArg (·.stats.misses) halike.cache
  · change r.purged.past.allClosed.Perm b.purged.past.allClosed
    rw [allClosed_purged, allClosed_purged]
    exact halike.closed

end CacheRun

end ContainerFleet
