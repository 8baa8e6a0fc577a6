import ContainerFleet.Proofs.CachePast
import Mathlib.Data.List.Induction

namespace ContainerFleet

inductive CacheOp (K V : Type) where
  | checkout (k : K)
  | store (k : K) (v : V)
  | release (k : K)
  | purge
  | wait (d : Duration)

def CacheOp.isCheckout {K V : Type} : CacheOp K V → Bool
  | checkout _ => true
  | _ => false

variable {K V : Type} [DecidableEq K]

structure CacheRun (K V : Type) where
  now : Duration
  cache : Cache K V
  past : CachePast K V := []

namespace CacheRun

def start (limit now : Duration) : CacheRun K V := { now, cache := { idleFor := limit } }

def record (r : CacheRun K V) (c : Cache K V) (xs : List (CacheEvent K V)) : CacheRun K V :=
  { r with cache := c, past := r.past ++ xs.map (r.now, ·) }

omit [DecidableEq K] in
@[simp] theorem cache_record (r : CacheRun K V) (c : Cache K V) (xs : List (CacheEvent K V)) :
    (r.record c xs).cache = c := rfl

def closingsOf (xs : List (K × V)) : List (CacheEvent K V) := xs.map fun x => .closed x.1 x.2

/-- What is due is closed before a checkout and before a store, and after a release. -/
def step (r : CacheRun K V) : CacheOp K V → CacheRun K V
  | .checkout k =>
    let t := r.cache.checkout r.now k
    r.record t.cache (closingsOf t.closed ++
      [match t.answer with
        | some v => .lent k v
        | none => .missed k])
  | .store k v =>
    let t := r.cache.store r.now k v
    r.record t.cache (closingsOf t.closed ++
      match t.answer with
        | .ok _ => [.stored k v]
        | .error _ => [])
  | .release k =>
    let t := r.cache.release r.now k
    r.record t.cache ((match t.answer with
        | .ok _ => [.released k]
        | .error _ => []) ++ closingsOf t.closed)
  | .purge =>
    let t := r.cache.purge r.now
    r.record t.cache (closingsOf t.closed)
  | .wait d => { r with now := r.now + d }

def run (r : CacheRun K V) (ops : List (CacheOp K V)) : CacheRun K V := ops.foldl step r

variable {r r' r₀ : CacheRun K V} {o : CacheOp K V} {ops : List (CacheOp K V)} {k : K} {v : V} {u : Nat}

theorem run_concat : r.run (ops ++ [o]) = (r.run ops).step o := by
  simp [run]

def purged (r : CacheRun K V) : CacheRun K V :=
  r.record (r.cache.purged r.now) (closingsOf (r.cache.expired r.now))

omit [DecidableEq K] in
theorem record_record {c c' : Cache K V} {xs ys : List (CacheEvent K V)} :
    (r.record c xs).record c' ys = r.record c' (xs ++ ys) := by
  simp [record]

inductive Step (r : CacheRun K V) : CacheOp K V → CacheRun K V → Prop where
  | lends {k : K} {e : CacheEntry V} (found : r.purged.cache.get? k = some e) :
      Step r (.checkout k) (r.purged.record
        (r.purged.cache.put k (.active e.value (e.usage + 1))).hit [.lent k e.value])
  | misses {k : K} (absent : r.purged.cache.get? k = none) :
      Step r (.checkout k) (r.purged.record r.purged.cache.miss [.missed k])
  | stores {k : K} {v : V} (absent : r.purged.cache.get? k = none) :
      Step r (.store k v) (r.purged.record (r.purged.cache.put k (.active v 1)) [.stored k v])
  | refuses {k : K} {v : V} {e : CacheEntry V} (found : r.purged.cache.get? k = some e) :
      Step r (.store k v) r.purged
  | takesBack {k : K} {v : V} {u : Nat} (held : r.cache.get? k = some (.active v u)) :
      Step r (.release k)
        (r.record (r.cache.put k (Cache.givenBack r.now v u)) [.released k]).purged
  | rejects {k : K} (free : ∀ v u, r.cache.get? k ≠ some (.active v u)) : Step r (.release k) r
  | purges : Step r .purge r.purged
  | waits {d : Duration} : Step r (.wait d) { r with now := r.now + d }

theorem step_checkout : r.Step (.checkout k) (r.step (.checkout k)) := by
  have hp : r.purged.cache = r.cache.purged r.now := rfl
  cases hg : (r.cache.purged r.now).get? k with
  | some e =>
    have h := Step.lends (hp ▸ hg)
    rw [purged, record_record] at h
    rw [step, Cache.checkout, hg]
    exact h
  | none =>
    have h := Step.misses (hp ▸ hg)
    rw [purged, record_record] at h
    rw [step, Cache.checkout, hg]
    exact h

theorem step_store : r.Step (.store k v) (r.step (.store k v)) := by
  have hp : r.purged.cache = r.cache.purged r.now := rfl
  cases hg : (r.cache.purged r.now).get? k with
  | some e =>
    have h := Step.refuses (v := v) (hp ▸ hg)
    simpa [step, Cache.store, hg, purged] using h
  | none =>
    have h := Step.stores (v := v) (hp ▸ hg)
    rw [purged, record_record] at h
    simpa [step, Cache.store, hg] using h

theorem step_release : r.Step (.release k) (r.step (.release k)) := by
  by_cases ha : ∃ v u, r.cache.get? k = some (.active v u)
  · obtain ⟨v, u, hg⟩ := ha
    have h := Step.takesBack hg
    rw [purged, record_record] at h
    rw [step, Cache.release_of_active hg]
    exact h
  · have hfree : ∀ v u, r.cache.get? k ≠ some (.active v u) := fun v u hg => ha ⟨v, u, hg⟩
    have h := Step.rejects hfree
    simpa [step, Cache.release_of_not_active hfree, record, closingsOf] using h

theorem step_cases (r : CacheRun K V) (o : CacheOp K V) : r.Step o (r.step o) := by
  cases o with
  | checkout k => exact step_checkout
  | store k v => exact step_store
  | release k => exact step_release
  | purge => exact .purges
  | wait d => exact .waits

omit [DecidableEq K] in
theorem past_record {c : Cache K V} {xs : List (CacheEvent K V)} :
    (r.record c xs).past = r.past ++ xs.map (r.now, ·) := rfl

theorem stored_closingsOf (xs : List (K × V)) (t : Duration) :
    CachePast.stored ((closingsOf xs).map (t, ·)) k = [] := by
  simp [CachePast.stored, closingsOf]

theorem stored_purged : r.purged.past.stored k = r.past.stored k := by
  rw [purged, past_record, CachePast.stored_append, stored_closingsOf, List.append_nil]

theorem Step.stored (hs : r.Step o r') (k : K) : r'.past.stored k = r.past.stored k ∨
    ∃ v, o = .store k v ∧ r'.past.stored k = r.past.stored k ++ [v] := by
  cases hs with
  | lends found | misses absent => exact .inl (by simp [past_record, stored_purged])
  | @stores l v absent =>
    by_cases hl : l = k
    · subst hl
      exact .inr ⟨v, rfl, by simp [past_record, stored_purged]⟩
    · exact .inl (by simp [past_record, stored_purged, hl])
  | refuses found | purges => exact .inl stored_purged
  | takesBack held =>
    left
    rw [stored_purged]
    simp [past_record]
  | rejects free | waits => exact .inl rfl

structure Sound (r : CacheRun K V) : Prop where
  distinct : r.cache.Distinct
  tracks : ∀ k, r.past.Tracks r.now k (r.cache.get? k)
  timely : r.past.Timely r.cache.idleFor
  expirations : r.cache.stats.expirations = r.past.closings

theorem sound_start (limit now : Duration) : (start limit now : CacheRun K V).Sound := by
  refine ⟨List.nodup_nil, fun k => ⟨rfl, rfl, fun _ _ h => ?_, fun _ _ h => ?_⟩, ?_, rfl⟩
  · cases h
  · cases h
  · intro older t k v newer h
    cases older <;> cases h

omit [DecidableEq K] in
theorem spares_closingsOf {xs : List (K × V)} (h : ∀ x ∈ xs, x.1 ≠ k) (t : Duration) :
    CachePast.Spares ((closingsOf xs).map (t, ·)) k := by
  intro y hy
  simp only [closingsOf, List.map_map, List.mem_map] at hy
  obtain ⟨x, hx, rfl⟩ := hy
  exact h x hx

theorem tracks_purged (h : r.Sound) (k : K) :
    r.purged.past.Tracks r.now k (r.purged.cache.get? k) := by
  have hg : r.purged.cache.get? k = r.cache.live? r.now k := Cache.get?_purged h.distinct
  rw [hg]
  by_cases hk : ∃ v, (k, v) ∈ r.cache.expired r.now
  · obtain ⟨v, hv⟩ := hk
    obtain ⟨xs, ys, he⟩ := List.append_of_mem hv
    obtain ⟨hxs, hys, s, hs, hl⟩ := Cache.expired_split h.distinct he
    have hnone : r.cache.live? r.now k = none := by
      simp [Cache.live?, hs, CacheEntry.isExpired, hl, Option.filter]
    have ht := h.tracks k
    rw [hs] at ht
    have hclosed := ((ht.elsewhere (spares_closingsOf hxs r.now)).close).elsewhere
      (spares_closingsOf hys r.now)
    rw [hnone]
    simpa [purged, record, closingsOf, he] using hclosed
  · have hsame : r.cache.live? r.now k = r.cache.get? k := by
      cases he : r.cache.get? k with
      | none => simp [Cache.live?, he]
      | some e =>
        rw [Cache.live?_eq_some]
        refine ⟨he, ?_⟩
        cases e with
        | active v u => rfl
        | idle v s =>
          have hl : ¬ r.cache.idleFor ≤ r.now - s := fun hl =>
            hk ⟨v, (Cache.mem_expired h.distinct).2 ⟨s, he, hl⟩⟩
          simpa [CacheEntry.isExpired] using hl
    rw [hsame]
    exact (h.tracks k).elsewhere (spares_closingsOf (fun x hx he => hk ⟨x.2, he ▸ hx⟩) r.now)

theorem Sound.purged (h : r.Sound) : r.purged.Sound := by
  refine ⟨h.distinct.purged, tracks_purged h, h.timely.append fun older t k v newer he => ?_, ?_⟩
  · rw [closingsOf, List.map_map] at he
    obtain ⟨xs, ys, hxs, rfl, hys⟩ := List.map_eq_append_iff.1 he
    obtain ⟨⟨l, w⟩, ys, rfl, hx, rfl⟩ := List.map_eq_cons_iff.1 hys
    cases hx
    obtain ⟨hbefore, _, s, hs, hl⟩ := Cache.expired_split h.distinct hxs
    have ht := h.tracks l
    rw [hs] at ht
    have hr := (ht.rests hl).elsewhere (spares_closingsOf hbefore r.now)
    simpa [closingsOf] using hr
  · have he := h.expirations
    simp [CacheRun.purged, record, Cache.purged, CachePast.closings, closingsOf, Function.comp_def,
      CacheEvent.isClosing] at he ⊢
    omega

theorem Sound.happen (h : r.Sound) {c : Cache K V} {x : CacheEvent K V} (hd : c.Distinct)
    (hi : c.idleFor = r.cache.idleFor) (hs : c.stats.expirations = r.cache.stats.expirations)
    (hx : x.isClosing = false) (ho : ∀ k, k ≠ x.key → c.get? k = r.cache.get? k)
    (hk : CachePast.Tracks (r.past ++ [(r.now, x)]) r.now x.key (c.get? x.key)) :
    (r.record c [x]).Sound := by
  refine ⟨hd, fun k => ?_, ?_, ?_⟩
  · by_cases hkx : k = x.key
    · exact hkx ▸ hk
    · have hg : (r.record c [x]).cache.get? k = r.cache.get? k := ho k hkx
      rw [hg]
      refine (h.tracks k).elsewhere fun y hy => ?_
      obtain rfl := List.mem_singleton.1 hy
      exact fun he => hkx he.symm
  · change CachePast.Timely _ c.idleFor
    rw [hi]
    refine h.timely.append fun older t k v newer he => ?_
    cases older with
    | nil =>
      obtain ⟨hx', -⟩ := List.cons.inj he
      obtain rfl : x = .closed k v := (Prod.ext_iff.1 hx').2
      cases hx
    | cons y older => simp at he
  · simpa [record, CachePast.closings, hx] using hs.trans h.expirations

theorem Sound.giveBack (h : r.Sound) (hg : r.cache.get? k = some (.active v u)) :
    (r.record (r.cache.put k (Cache.givenBack r.now v u)) [.released k]).Sound := by
  have ht := h.tracks k
  rw [hg] at ht
  refine h.happen h.distinct.put rfl rfl rfl (fun l hl => ?_) ?_
  · have hl : l ≠ k := hl
    simp [hl]
  · simpa [CacheEvent.key] using ht.giveBack

theorem Sound.step (h : r.Sound) (hs : r.Step o r') : r'.Sound := by
  have hp := h.purged
  cases hs with
  | @lends k e found =>
    have ht := hp.tracks k
    rw [found] at ht
    refine hp.happen hp.distinct.put rfl rfl rfl (fun l hl => ?_) ?_
    · have hl : l ≠ k := hl
      simp [hl]
    · simpa [CacheEvent.key] using ht.lend
  | @misses k absent =>
    have ht := hp.tracks k
    rw [absent] at ht
    refine hp.happen hp.distinct rfl rfl rfl (fun _ _ => rfl) ?_
    simpa [CacheEvent.key, absent] using ht.missed
  | @stores k v absent =>
    have ht := hp.tracks k
    rw [absent] at ht
    refine hp.happen hp.distinct.put rfl rfl rfl (fun l hl => ?_) ?_
    · have hl : l ≠ k := hl
      simp [hl]
    · simpa [CacheEvent.key] using ht.kept v
  | refuses found | purges => exact hp
  | takesBack held => exact (h.giveBack held).purged
  | rejects free => exact h
  | waits =>
    exact ⟨h.distinct, fun k => (h.tracks k).later (Nat.le_add_right ..), h.timely, h.expirations⟩

theorem Sound.run (h : r.Sound) (ops : List (CacheOp K V)) : (r.run ops).Sound := by
  induction ops using List.reverseRecOn with
  | nil => exact h
  | append_singleton ops o ih =>
    rw [run_concat]
    exact ih.step (step_cases ..)

def IsActive (r : CacheRun K V) (k : K) : Prop := ∃ v u, r.cache.get? k = some (.active v u)

theorem get?_purged_active (h : r.Sound) :
    r.purged.cache.get? k = some (.active v u) ↔ r.cache.get? k = some (.active v u) := by
  have hg : r.purged.cache.get? k = r.cache.live? r.now k := Cache.get?_purged h.distinct
  rw [hg, Cache.live?_eq_some]
  exact and_iff_left rfl

theorem quiet_closingsOf (xs : List (K × V)) (t : Duration) :
    CachePast.Quiet ((closingsOf xs).map (t, ·)) k := by
  constructor
  · simp [CachePast.lent, closingsOf, List.countP_eq_zero]
  · simp [CachePast.released, closingsOf, List.countP_eq_zero]

theorem happen_counts {c : Cache K V} {x : CacheEvent K V} {t : Duration}
    (ho : ∀ l, l ≠ x.key → c.get? l = r.cache.get? l)
    (hx : CachePast.Counts [(t, x)] x.key (r.cache.get? x.key) (c.get? x.key)) (k : K) :
    CachePast.Counts [(t, x)] k (r.cache.get? k) (c.get? k) := by
  by_cases hk : k = x.key
  · exact hk ▸ hx
  · have hs : CachePast.Spares [(t, x)] k := fun y hy he => by
      obtain rfl := List.mem_singleton.1 hy
      exact hk he.symm
    rw [ho k hk]
    exact .of_quiet hs.quiet fun _ _ => id

/-- What one operation adds to the past counts how often a value is in use. -/
theorem Step.counts (hs : r.Step o r') (h : r.Sound) (k : K) :
    ∃ new : CachePast K V, r'.past = r.past ++ new ∧
      new.Counts k (r.cache.get? k) (r'.cache.get? k) := by
  have hquiet : CachePast.Quiet ((closingsOf (r.cache.expired r.now)).map (r.now, ·)) k :=
    quiet_closingsOf ..
  have hpurged : ∀ v u, r.purged.cache.get? k = some (.active v u) ↔
      r.cache.get? k = some (.active v u) := fun _ _ => get?_purged_active h
  cases hs with
  | @lends l e found =>
    refine ⟨_, List.append_assoc .., .after hquiet hpurged (happen_counts (fun m hm => ?_) ?_ k)⟩
    · have hm : m ≠ l := hm
      simp [hm]
    · simpa [CacheEvent.key, found] using CachePast.Counts.lend
  | misses absent =>
    exact ⟨_, List.append_assoc .., .after hquiet hpurged (.of_quiet ⟨rfl, rfl⟩ fun _ _ => id)⟩
  | @stores l w absent =>
    refine ⟨_, List.append_assoc .., .after hquiet hpurged (happen_counts (fun m hm => ?_) ?_ k)⟩
    · have hm : m ≠ l := hm
      simp [hm]
    · simpa [CacheEvent.key, absent] using CachePast.Counts.kept
  | refuses found | purges => exact ⟨_, rfl, .of_quiet hquiet fun v u => (hpurged v u).1⟩
  | @takesBack l w n held =>
    refine ⟨_, List.append_assoc .., .before (quiet_closingsOf ..)
      (fun v u => (get?_purged_active (h.giveBack held)).1) (happen_counts (fun m hm => ?_) ?_ k)⟩
    · have hm : m ≠ l := hm
      simp [hm]
    · simpa [CacheEvent.key, held] using CachePast.Counts.giveBack
  | rejects free | waits =>
    exact ⟨[], (List.append_nil _).symm, .of_quiet ⟨rfl, rfl⟩ fun _ _ => id⟩

/-- A value is in use once, and once more for each checkout and once less for each release since it
last came into use. -/
theorem run_counts (h : r₀.Sound) (hk : ¬ r₀.IsActive k)
    (ha : (r₀.run ops).cache.get? k = some (.active v u)) :
    ∃ before o after new, ops = before ++ o :: after ∧ ¬ (r₀.run before).IsActive k ∧
      (∀ part, part <+: after → (r₀.run (before ++ o :: part)).IsActive k) ∧
      (r₀.run ops).past = (r₀.run (before ++ [o])).past ++ new ∧
      u + CachePast.released new k = 1 + CachePast.lent new k := by
  induction ops using List.reverseRecOn generalizing u with
  | nil => exact absurd ⟨v, u, ha⟩ hk
  | append_singleton ops o ih =>
    have ha' := ha
    rw [run_concat] at ha'
    obtain ⟨new, hpast, hcounts⟩ := (step_cases (r₀.run ops) o).counts (h.run ops) k
    obtain ⟨n, hn, hc⟩ | ⟨hn, rfl⟩ := hcounts v u ha'
    · obtain ⟨before, o', after, new', rfl, hfirst, hsince, hpast', hc'⟩ := ih hn
      refine ⟨before, o', after ++ [o], new' ++ new, by simp, hfirst, fun part hp => ?_, ?_, ?_⟩
      · obtain rfl | hp := List.prefix_concat_iff.1 hp
        · exact ⟨v, u, by simpa using ha⟩
        · exact hsince part hp
      · rw [run_concat, hpast, hpast', List.append_assoc]
      · rw [CachePast.lent_append, CachePast.released_append]
        omega
    · have hfirst : ¬ (r₀.run ops).IsActive k := by
        rintro ⟨w, n, hw⟩
        exact hn w n hw
      refine ⟨ops, o, [], [], rfl, hfirst, fun part hp => ?_, by simp, rfl⟩
      obtain rfl := List.prefix_nil.1 hp
      exact ⟨v, 1, ha⟩

theorem Step.checkouts (hs : r.Step o r') : r'.cache.stats.hits + r'.cache.stats.misses =
    r.cache.stats.hits + r.cache.stats.misses + if o.isCheckout then 1 else 0 := by
  cases hs with
  | lends found =>
    change r.cache.stats.hits + 1 + r.cache.stats.misses = _
    simp only [CacheOp.isCheckout, if_true]
    omega
  | misses absent => exact (Nat.add_assoc ..).symm
  | _ => rfl

theorem checkouts_run : (r.run ops).cache.stats.hits + (r.run ops).cache.stats.misses =
    r.cache.stats.hits + r.cache.stats.misses + ops.countP (·.isCheckout) := by
  induction ops using List.reverseRecOn with
  | nil => rfl
  | append_singleton ops o ih =>
    rw [run_concat, (step_cases ..).checkouts, ih, List.countP_append, List.countP_singleton]
    omega

/-- What holds of a cache that has come from `r₀` to `r` with the operations `ops`. -/
structure Lifecycle (r₀ r : CacheRun K V) (ops : List (CacheOp K V)) : Prop where
  /-- A key has one entry, which is in use or idle, or none. -/
  distinct : (r.cache.entries.map (·.1)).Nodup
  usage : ∀ k v u, r.cache.get? k = some (.active v u) → 1 ≤ u ∧
    ∃ before o after new, ops = before ++ o :: after ∧ ¬ (r₀.run before).IsActive k ∧
      (∀ part, part <+: after → (r₀.run (before ++ o :: part)).IsActive k) ∧
      r.past = (r₀.run (before ++ [o])).past ++ new ∧
      u + CachePast.released new k = 1 + CachePast.lent new k
  values : ∀ k, r.past.stored k = r.past.closed k ++ ((r.cache.get? k).map (·.value)).toList
  closings : r.past.Timely r₀.cache.idleFor
  found : ∀ k, (r.cache.checkout r.now k).answer.isSome = true ↔
    ∃ e, r.cache.get? k = some e ∧ ∀ v s, e = .idle v s → r.now - s < r₀.cache.idleFor
  latest : ∀ k v, (r.cache.checkout r.now k).answer = some v → (r.past.stored k).getLast? = some v
  checkouts : r.cache.stats.hits + r.cache.stats.misses = ops.countP (·.isCheckout)
  expirations : r.cache.stats.expirations = r.past.closings
  unstored : ∀ k v e, (r.cache.store r.now k v).answer = .error e →
    (r.cache.store r.now k v).cache = r.cache.purged r.now
  unreleased : ∀ k e, (r.cache.release r.now k).answer = .error e →
    (r.cache.release r.now k).cache = r.cache

theorem idleFor_step : (r.step o).cache.idleFor = r.cache.idleFor := by
  cases o with
  | checkout k => exact Cache.idleFor_checkout
  | store k v => exact Cache.idleFor_store
  | release k => exact Cache.idleFor_release
  | purge => rfl
  | wait d => rfl

theorem idleFor_run : (r.run ops).cache.idleFor = r.cache.idleFor := by
  induction ops using List.reverseRecOn with
  | nil => rfl
  | append_singleton ops o ih => rw [run_concat, idleFor_step, ih]

theorem Sound.getLast?_stored (h : r.Sound)
    (ha : (r.cache.checkout r.now k).answer = some v) : (r.past.stored k).getLast? = some v := by
  rw [Cache.answer_checkout h.distinct] at ha
  obtain ⟨e, he, rfl⟩ := Option.map_eq_some_iff.1 ha
  have hv := (h.tracks k).values
  rw [(Cache.live?_eq_some.1 he).1] at hv
  simp [hv]

theorem lifecycle (limit now : Duration) (ops : List (CacheOp K V)) :
    Lifecycle (start limit now) ((start limit now).run ops) ops := by
  have hs : ((start limit now : CacheRun K V).run ops).Sound := (sound_start limit now).run ops
  have hidle : ((start limit now : CacheRun K V).run ops).cache.idleFor = limit := idleFor_run
  refine ⟨hs.distinct, fun k v u ha => ⟨(hs.tracks k).held v u ha, ?_⟩, fun k => (hs.tracks k).values,
    ?_, fun k => ?_, fun k v => hs.getLast?_stored, ?_, hs.expirations,
    fun k v e => Cache.store_of_error, fun k e => Cache.release_of_error⟩
  · refine run_counts (sound_start limit now) ?_ ha
    rintro ⟨w, n, hw⟩
    cases hw
  · have ht := hs.timely
    rw [hidle] at ht
    exact ht
  · rw [Cache.answer_checkout hs.distinct, Option.isSome_map, Cache.isSome_live?, hidle]
    rfl
  · rw [checkouts_run]
    exact Nat.zero_add _

end CacheRun

end ContainerFleet
