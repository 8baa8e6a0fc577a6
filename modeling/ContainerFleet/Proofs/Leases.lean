import ContainerFleet.Proofs.Ledger
import ContainerFleet.Proofs.Pool
import ContainerFleet.Proofs.SweepRun

namespace ContainerFleet

/-- What a pool lends are the clients of `keys`, each as often as its key stands there. -/
structure Pool.Lends (p : Pool) (keys : List ClientKey) : Prop where
  distinct : p.cache.Distinct
  used : ∀ key v n, p.cache.get? key = some (.active v n) → 0 < n
  usage : ∀ key, (p.cache.usage? key).getD 0 = keys.count key

namespace Pool.Lends

variable {p p' : Pool} {key : ClientKey} {keys keys' : List ClientKey} {now : Duration}

theorem perm (h : p.Lends keys) (hk : keys.Perm keys') : p.Lends keys' :=
  ⟨h.distinct, h.used, fun key => (h.usage key).trans (hk.count_eq key)⟩

theorem swap {xs ys zs : List ClientKey} (h : p.Lends (xs ++ (ys ++ zs))) :
    p.Lends (ys ++ (xs ++ zs)) := h.perm (List.perm_append_comm_assoc ..)

theorem ofIdle (limit : Duration) : (Pool.ofIdle limit).Lends [] :=
  ⟨List.nodup_nil, fun _ _ _ h => (nomatch h), fun _ => rfl⟩

theorem of_live (now : Duration) (h : p.Lends keys) (hd : p'.cache.Distinct)
    (hg : ∀ k, p'.cache.get? k = p.cache.live? now k) : p'.Lends keys := by
  refine ⟨hd, fun k v n hk => ?_, fun k => ?_⟩
  · rw [hg] at hk
    exact h.used k v n (Cache.live?_eq_some.1 hk).1
  · rw [Cache.usage?, hg, Cache.usage_live?, h.usage]

theorem add (now : Duration) (h : p.Lends keys) (hd : p'.cache.Distinct) {v : Client}
    (hg : ∀ k, p'.cache.get? k = if k = key then
      some (.active v (((p.cache.live? now key).map (·.usage)).getD 0 + 1))
      else p.cache.live? now k) : p'.Lends (key :: keys) := by
  refine ⟨hd, fun k w n hk => ?_, fun k => ?_⟩
  · rw [hg] at hk
    split at hk
    · obtain ⟨-, rfl⟩ := CacheEntry.active.inj (Option.some.inj hk)
      exact Nat.succ_pos _
    · exact h.used k w n (Cache.live?_eq_some.1 hk).1
  · rw [Cache.usage?, hg, List.count_cons]
    by_cases hk : k = key
    · subst hk
      have hu : ((p.cache.live? now k).map (·.usage)).getD 0 = keys.count k :=
        Cache.usage_live?.trans (h.usage k)
      simp [hu]
    · have hne : key ≠ k := fun he => hk he.symm
      rw [if_neg hk, Cache.usage_live?, h.usage]
      simp [hne]

theorem lease (now : Duration) (key : ClientKey) (refusal : Option RuntimeError)
    (h : p.Lends keys) :
    (p.lease now key refusal).2.Lends
      (match (p.lease now key refusal).1 with
        | .ok _ => key :: keys
        | .error _ => keys) := by
  cases he : p.cache.live? now key with
  | some e =>
    rw [Pool.lease_live h.distinct he]
    refine h.add now h.distinct.checkout (v := e.value) fun k => ?_
    rw [Cache.get?_checkout h.distinct, he]
    rfl
  | none =>
    cases refusal with
    | none =>
      rw [Pool.lease_made h.distinct he]
      refine h.add now h.distinct.checkout.store (v := ⟨key.uri, p.dialled⟩) fun k => ?_
      rw [Cache.get?_checkout_store h.distinct he, he]
      rfl
    | some cause =>
      rw [Pool.lease_refused h.distinct he]
      refine h.of_live now h.distinct.checkout fun k => ?_
      rw [Cache.get?_checkout h.distinct]
      split
      · rename_i hk
        rw [hk, he]
        rfl
      · rfl

theorem mem_of_active (h : p.Lends keys) {v : Client} {n : Nat}
    (hg : p.cache.get? key = some (.active v n)) : key ∈ keys := by
  have hu := h.usage key
  rw [Cache.usage?, hg] at hu
  exact List.count_pos_iff.1 (Nat.lt_of_lt_of_eq (h.used key v n hg) hu)

theorem get?_head (h : p.Lends (key :: keys)) :
    ∃ v, p.cache.get? key = some (.active v (keys.count key + 1)) := by
  have hcount : (p.cache.usage? key).getD 0 = keys.count key + 1 := by
    rw [h.usage, List.count_cons_self]
  rw [Cache.usage?] at hcount
  cases he : p.cache.get? key with
  | none => simp [he] at hcount
  | some e =>
    cases e with
    | active v n =>
      rw [he] at hcount
      exact ⟨v, congrArg (fun n => some (CacheEntry.active v n)) hcount⟩
    | idle v s => simp [he] at hcount

theorem release (h : p.Lends (key :: keys)) : (p.release now key).2.Lends keys := by
  obtain ⟨v, hv⟩ := h.get?_head
  have hback : (Cache.givenBack now v (keys.count key + 1)).usage = keys.count key := by
    rw [Cache.givenBack]
    split
    · rw [CacheEntry.usage_idle]
      omega
    · rfl
  have hcache : (p.release now key).2.cache =
      (p.cache.put key (Cache.givenBack now v (keys.count key + 1))).purged now := by
    rw [Pool.release, Cache.release_of_active hv]
  refine ⟨hcache ▸ h.distinct.put.purged, fun k w n hk => ?_, fun k => ?_⟩
  · rw [hcache, Cache.get?_purged h.distinct.put, Cache.live?_eq_some, Cache.get?_put] at hk
    obtain ⟨hk, -⟩ := hk
    split at hk
    · rw [Cache.givenBack] at hk
      split at hk
      · cases hk
      · obtain ⟨-, rfl⟩ := CacheEntry.active.inj (Option.some.inj hk)
        omega
    · exact h.used k w n hk
  · rw [hcache, Cache.usage?, Cache.get?_purged h.distinct.put, Cache.usage_live?, Cache.usage?,
      Cache.get?_put]
    by_cases hk : k = key
    · subst hk
      simp [hback]
    · have hne : key ≠ k := fun he => hk he.symm
      have hu := h.usage k
      rw [Cache.usage?, List.count_cons] at hu
      simpa [hk, hne] using hu

/-- A client that is given back stays, if another holder has it or clients may be idle at all. -/
theorem isSome_live?_release (h : p.Lends (key :: keys))
    (hk : key ∈ keys ∨ 0 < p.cache.idleFor.nanos) :
    ((p.release now key).2.cache.live? now key).isSome = true := by
  obtain ⟨v, hv⟩ := h.get?_head
  have hcache : (p.release now key).2.cache =
      (p.cache.put key (Cache.givenBack now v (keys.count key + 1))).purged now := by
    rw [Pool.release, Cache.release_of_active hv]
  have hlive : (p.cache.put key (Cache.givenBack now v (keys.count key + 1))).live? now key =
      some (Cache.givenBack now v (keys.count key + 1)) := by
    refine Cache.live?_eq_some.2 ⟨Cache.get?_put.trans (if_pos rfl), ?_⟩
    unfold Cache.givenBack
    split
    · rename_i hone
      have hnot : key ∉ keys := fun hin => by
        have hpos := List.count_pos_iff.2 hin
        omega
      have hidle : 0 < p.cache.idleFor.nanos := hk.resolve_left hnot
      refine decide_eq_false fun hle => ?_
      have hle : p.cache.idleFor.nanos ≤ now.nanos - now.nanos := hle
      omega
    · rfl
  have hget : (p.release now key).2.cache.get? key =
      (p.cache.put key (Cache.givenBack now v (keys.count key + 1))).live? now key := by
    rw [hcache, Cache.get?_purged h.distinct.put]
  rw [Cache.live?_of_live hget (hcache ▸ rfl) (Nat.le_refl _), hlive]
  rfl

theorem purge (h : p.Lends keys) : (p.purge now).2.Lends keys :=
  h.of_live now h.distinct.purged fun _ => Cache.get?_purged h.distinct

theorem activeSize_eq_zero (h : p.Lends []) : p.cache.activeSize = 0 := by
  refine List.countP_eq_zero.2 fun x hx hactive => ?_
  obtain ⟨key, e⟩ := x
  cases e with
  | idle v s => cases hactive
  | active v n =>
    have hg : p.cache.get? key = some (.active v n) := (Dict.lookup_eq_some_iff h.distinct).2 hx
    exact absurd (h.mem_of_active hg) List.not_mem_nil

end Pool.Lends

def Progress.holds {σ α : Type} (leases : σ → List ClientKey) : Progress σ α → List ClientKey
  | .wait p => leases p
  | .done _ => []

def Planning.Phase.leases : Phase → List ClientKey
  | .locking _ _ => []
  | .counting _ t _ _ => [t.cloud.endpoint]

def Creation.Phase.leases (o : Order) (p : Phase) : List ClientKey :=
  if p.isUnderWay then [o.cloud.endpoint] else []

def Termination.Phase.leases (p : Phase) : List ClientKey := (p.leases?.map (·.endpoint)).toList

def Reap.Phase.leases : Phase → List ClientKey
  | .looking _ => []
  | .terminating _ p _ _ => p.leases

def CloudSweep.Phase.leases (c : Cloud) (p : Phase) : List ClientKey :=
  if p.isUnderWay then [c.endpoint] else []

def SweepStrand.leases (x : SweepStrand) : List ClientKey :=
  x.progress.holds (CloudSweep.Phase.leases x.cloud)

def Sweep.Phase.leases : Phase → List ClientKey
  | .looking => []
  | .sweeping _ strands => strands.flatMap (·.leases)

def Job.leases : Job → List ClientKey
  | planning p => p.leases
  | creation o p => p.leases o
  | termination _ p => p.leases
  | sweep p => p.leases
  | reap p => p.leases

/-- A turn takes and gives back as many clients as it makes a difference to what its activity
holds. -/
def Turn.Balances {σ α : Type} (leases : σ → List ClientKey) (s : State) (before : List ClientKey)
    (t : Turn σ α) : Prop :=
  ∀ others, s.pool.Lends (before ++ others) →
    t.state.pool.Lends (t.progress.holds leases ++ others)

namespace Turn

variable {σ τ α β : Type} {leases : σ → List ClientKey} {leases' : τ → List ClientKey}
  {s : State} {before : List ClientKey} {t : Turn σ α} {g : σ → τ} {h : α → β}

theorem holds_map (hg : ∀ p, leases' (g p) = leases p) :
    (t.map g h).progress.holds leases' = t.progress.holds leases := by
  cases hp : t.progress with
  | wait p =>
    rw [map_wait hp]
    exact hg p
  | done r =>
    rw [map_done hp]
    rfl

theorem Balances.of_pool (hp : t.state.pool = s.pool) (hh : t.progress.holds leases = before) :
    t.Balances leases s before := by
  intro others hl
  rwa [hp, hh]

theorem Balances.map (hb : t.Balances leases s before) (hg : ∀ p, leases' (g p) = leases p) :
    (t.map g h).Balances leases' s before := by
  intro others hl
  rw [holds_map hg]
  exact hb others hl

end Turn

namespace State

variable {s : State} {m : Moment} {c : Cloud} {keys : List ClientKey}

theorem lends_lease_ok {client : Client} {s' : State} (h : s.pool.Lends keys)
    (hl : s.lease m c = (.ok client, s')) : s'.pool.Lends (c.endpoint :: keys) := by
  obtain ⟨hok, rfl⟩ := Prod.ext_iff.1 hl
  have hp := h.lease m.ticks c.endpoint (m.refusal c.endpoint)
  have hok : (s.pool.lease m.ticks c.endpoint (m.refusal c.endpoint)).1 = .ok client := hok
  rwa [hok] at hp

theorem lends_lease_error {e : PoolError} {s' : State} (h : s.pool.Lends keys)
    (hl : s.lease m c = (.error e, s')) : s'.pool.Lends keys := by
  obtain ⟨herr, rfl⟩ := Prod.ext_iff.1 hl
  have hp := h.lease m.ticks c.endpoint (m.refusal c.endpoint)
  have herr : (s.pool.lease m.ticks c.endpoint (m.refusal c.endpoint)).1 = .error e := herr
  rwa [herr] at hp

theorem lends_giveBack (h : s.pool.Lends (c.endpoint :: keys)) : (s.giveBack m c).pool.Lends keys :=
  h.release

end State

section Balances

variable {f : Fleet} {s : State} {m : Moment}

namespace Planning

theorem holds_of_rests {x : Progress Phase Round} (h : Rests f x) : x.holds Phase.leases = [] := by
  cases h <;> rfl

@[simp] theorem holds_advance (r : Round) : (advance s m r).progress.holds Phase.leases = [] := by
  unfold advance
  split
  · rfl
  · simp only
    split <;> rfl

@[simp] theorem holds_fault (r : Round) (c : Cloud) (e : ProvisionError) :
    (fault f s m r c e).progress.holds Phase.leases = [] := holds_advance _

theorem fault_pool (r : Round) (c : Cloud) (e : ProvisionError) :
    (fault f s m r c e).state.pool = s.pool := by
  rw [fault, advance_state]
  rfl

theorem resume_balances (p : Phase) (a : (wait p).Answer) :
    (resume f s m p a).Balances Phase.leases s p.leases := by
  intro others hl
  cases p with
  | locking r t =>
    simp only [resume, lock]
    split
    · rename_i e s' he
      rw [fault_pool, holds_fault]
      exact State.lends_lease_error hl he
    · rename_i client s' hok
      have hlent : s'.pool.Lends (t.cloud.endpoint :: others) := State.lends_lease_ok hl hok
      exact hlent
  | counting r t onCloud ofTemplate =>
    have hback : (s.giveBack m t.cloud).pool.Lends others := State.lends_giveBack hl
    simp only [resume, count]
    split
    · rw [fault_pool, holds_fault]
      exact hback
    · split
      · rw [advance_state, holds_advance]
        exact hback
      · rw [advance_state, holds_advance]
        exact hback

theorem abandon_lends (p : Phase) {others : List ClientKey} (h : s.pool.Lends (p.leases ++ others)) :
    (abandon s m p).pool.Lends others := by
  cases p with
  | locking r t => exact h
  | counting r t onCloud ofTemplate => exact State.lends_giveBack h

end Planning

namespace Creation

variable {o : Order}

theorem resume_balances (p : Phase) (a : (wait f o p).Answer) :
    (resume f o s m p a).Balances (Phase.leases o) s (p.leases o) := by
  intro others hl
  cases p with
  | queued =>
    simp only [resume, begin]
    split
    · rename_i client s' hok
      have hlent : s'.pool.Lends (o.cloud.endpoint :: others) := State.lends_lease_ok hl hok
      exact hlent
    · rename_i e s' he
      have hlent : s'.pool.Lends others := State.lends_lease_error hl he
      exact hlent
  | creating =>
    cases a with
    | ok container => exact hl
    | error e => exact State.lends_giveBack (s := trip f o s m .create e) hl
  | starting container =>
    cases a with
    | ok u =>
      simp only [resume, started]
      split <;> exact hl
    | error e => exact hl
  | inspecting container =>
    simp only [resume]
    cases Connector.verify container a <;> exact hl
  | discarding container cause => exact State.lends_giveBack hl
  | registering n =>
    simp only [resume, register]
    split
    · exact State.lends_giveBack (c := o.cloud) hl
    · exact hl
  | unwinding container cause p =>
    simp only [resume, unwind]
    split
    · exact hl
    · exact State.lends_giveBack hl

theorem abandon_lends (p : Phase) {others : List ClientKey}
    (h : s.pool.Lends (p.leases o ++ others)) : (abandon o s m p).pool.Lends others := by
  unfold abandon
  unfold Phase.leases at h
  split
  · rename_i hp
    rw [if_pos hp] at h
    exact State.lends_giveBack h
  · rename_i hp
    rw [if_neg hp] at h
    exact h

end Creation

namespace Termination

variable {name : String}

theorem resume_balances (p : Phase) (a : (wait p).Answer) :
    (resume f name s m p a).Balances Phase.leases s p.leases := by
  intro others hl
  cases p with
  | lookingUp =>
    simp only [resume, lookUp]
    split
    · exact hl
    · split <;> exact hl
  | marking n c =>
    simp only [resume, mark]
    split
    · exact hl
    · rename_i registry _
      split
      · rename_i e s' he
        exact State.lends_lease_error (s := { s with registry }) hl he
      · rename_i client s' hok
        exact State.lends_lease_ok (s := { s with registry }) hl hok
  | removing c r p =>
    simp only [resume, remove]
    split
    · exact hl
    · exact State.lends_giveBack hl
    · exact State.lends_giveBack hl
  | markingGone =>
    simp only [resume, markGone]
    split <;> exact hl
  | unregistering =>
    simp only [resume, unregister]
    split <;> exact hl

theorem abandon_lends (p : Phase) {others : List ClientKey} (h : s.pool.Lends (p.leases ++ others)) :
    (abandon s m p).pool.Lends others := by
  cases p with
  | removing c r p => exact State.lends_giveBack h
  | _ => exact h

theorem leases_of_call {p : Phase} {uri : String} {c : Call} (hw : wait p = .call uri c) :
    ∃ key ∈ p.leases, key.uri = uri := by
  cases p with
  | removing d r p => exact ⟨_, .head _, (Wait.call.inj hw).1⟩
  | _ => cases hw

end Termination

namespace Reap

theorem goOn_balances {s' : State} {others : List ClientKey} (report : ReapReport)
    (due : List DueNode) (h : s'.pool.Lends others) :
    (goOn s' report due).state.pool.Lends
      ((goOn s' report due).progress.holds Phase.leases ++ others) := by
  cases due <;> exact h

theorem resume_balances (p : Phase) (a : (wait p).Answer) :
    (resume f s m p a).Balances Phase.leases s p.leases := by
  intro others hl
  cases p with
  | looking now => exact goOn_balances _ _ hl
  | terminating n p rest report =>
    have hbalances : (Termination.resume f n.name s m p a).Balances _ s p.leases :=
      Termination.resume_balances p a
    have hb := hbalances others hl
    simp only [resume, continueWith]
    split
    · rename_i hp
      rwa [hp] at hb
    · rename_i hp
      rw [hp] at hb
      exact goOn_balances _ _ hb
    · rename_i hp
      rw [hp] at hb
      exact goOn_balances _ _ hb

theorem abandon_lends (p : Phase) {others : List ClientKey} (h : s.pool.Lends (p.leases ++ others)) :
    (abandon s m p).pool.Lends others := by
  cases p with
  | looking now => exact h
  | terminating n p rest report => exact Termination.abandon_lends p h

end Reap

namespace CloudSweep

variable {c : Cloud} {nodes : Registry}

theorem removeNext_balances {others : List ClientKey} (report : SweepReport) (rs : List Removal)
    (h : s.pool.Lends (c.endpoint :: others)) : (removeNext c s m report rs).state.pool.Lends
      ((removeNext c s m report rs).progress.holds (Phase.leases c) ++ others) := by
  cases rs with
  | nil => exact State.lends_giveBack h
  | cons r rs => exact h

theorem inspectNext_balances {others : List ClientKey} (found : Findings) (xs : List Summary)
    (h : s.pool.Lends (c.endpoint :: others)) :
    (inspectNext f c nodes s m found xs).state.pool.Lends
      ((inspectNext f c nodes s m found xs).progress.holds (Phase.leases c) ++ others) := by
  induction xs generalizing found with
  | nil => exact removeNext_balances _ _ h
  | cons x xs ih =>
    simp only [inspectNext]
    split
    · exact h
    · exact ih _

theorem resume_balances (p : Phase) (a : (wait f c p).Answer) :
    (resume f c nodes s m p a).Balances (Phase.leases c) s (p.leases c) := by
  intro others hl
  cases p with
  | starting =>
    simp only [resume, start]
    split
    · rename_i e s' he
      exact State.lends_lease_error hl he
    · rename_i client s' hok
      exact State.lends_lease_ok hl hok
  | listing =>
    simp only [resume, listed]
    split
    · exact State.lends_giveBack hl
    · exact inspectNext_balances _ _ hl
  | inspecting x status rest found => exact inspectNext_balances _ _ hl
  | removing r p rest report =>
    simp only [resume, remove]
    split
    · exact hl
    · exact removeNext_balances _ _ hl
    · exact removeNext_balances _ _ hl

theorem abandon_lends (p : Phase) {others : List ClientKey}
    (h : s.pool.Lends (p.leases c ++ others)) : (abandon c s m p).pool.Lends others := by
  cases p with
  | starting => exact h
  | _ => exact State.lends_giveBack h

end CloudSweep

namespace Sweep

theorem holds_settle (nodes : Registry) (strands : List SweepStrand) :
    (settle s nodes strands).progress.holds Phase.leases = strands.flatMap (·.leases) := by
  unfold settle
  cases hr : report? strands with
  | none => rfl
  | some r =>
    symm
    refine List.flatMap_eq_nil_iff.2 fun x hx => ?_
    obtain ⟨res, hres⟩ := (report_some hr).2.2 x hx
    rw [SweepStrand.leases, hres]
    rfl

theorem look_balances : (look f s).Balances Phase.leases s [] := by
  refine .of_pool rfl ?_
  rw [look, holds_settle]
  refine List.flatMap_eq_nil_iff.2 fun x hx => ?_
  obtain ⟨c, -, rfl⟩ := List.mem_map.1 hx
  rfl

theorem goOn_balances {nodes : Registry} {strands : List SweepStrand} {i : Nat} {c : Cloud}
    {p : CloudSweep.Phase} {t : Turn CloudSweep.Phase CloudSweep.Result}
    (hi : strands[i]? = some ⟨c, .wait p⟩)
    (ht : t.Balances (CloudSweep.Phase.leases c) s (p.leases c)) :
    (goOn nodes strands i t).Balances Phase.leases s (strands.flatMap (·.leases)) := by
  obtain ⟨pre, post, rfl, hmod⟩ := modify_at hi
  intro others hl
  rw [goOn, holds_settle, hmod]
  simp only [List.flatMap_append, List.flatMap_cons, List.append_assoc] at hl ⊢
  exact (ht _ hl.swap).swap

theorem abandon_lends (p : Phase) {others : List ClientKey} (h : s.pool.Lends (p.leases ++ others)) :
    (abandon s m p).pool.Lends others := by
  cases p with
  | looking => exact h
  | sweeping nodes strands =>
    simp only [abandon, Phase.leases] at h ⊢
    induction strands generalizing s with
    | nil => exact h
    | cons x strands ih =>
      rw [List.flatMap_cons, List.append_assoc] at h
      rw [List.foldl_cons]
      refine ih ?_
      cases hx : x.progress with
      | wait p =>
        rw [SweepStrand.leases, hx] at h
        exact CloudSweep.abandon_lends p h
      | done r =>
        rw [SweepStrand.leases, hx] at h
        exact h

end Sweep

namespace Job

variable {j : Job} {part : Nat} {x : Pending Job JobResult}

/-- Whatever part of an activity goes on, it leaves lent what the activity then holds. -/
theorem resume_balances (h : (part, x) ∈ j.pending f) (a : x.wait.Answer) :
    (x.resume s m a).Balances leases s j.leases := by
  cases j with
  | planning p =>
    obtain ⟨rfl, rfl⟩ := Prod.ext_iff.1 (List.mem_singleton.1 h)
    exact (Planning.resume_balances p a).map fun _ => rfl
  | creation o p =>
    obtain ⟨rfl, rfl⟩ := Prod.ext_iff.1 (List.mem_singleton.1 h)
    exact (Creation.resume_balances p a).map fun _ => rfl
  | termination name p =>
    obtain ⟨rfl, rfl⟩ := Prod.ext_iff.1 (List.mem_singleton.1 h)
    exact (Termination.resume_balances p a).map fun _ => rfl
  | reap p =>
    obtain ⟨rfl, rfl⟩ := Prod.ext_iff.1 (List.mem_singleton.1 h)
    exact (Reap.resume_balances p a).map fun _ => rfl
  | sweep p =>
    cases p with
    | looking =>
      obtain ⟨rfl, rfl⟩ := Prod.ext_iff.1 (List.mem_singleton.1 h)
      exact Sweep.look_balances.map fun _ => rfl
    | sweeping nodes strands =>
      obtain ⟨c, p, hi, rfl⟩ := Sweep.mem_pending h
      exact (Sweep.goOn_balances hi (CloudSweep.resume_balances p a)).map fun _ => rfl

theorem abandon_lends {others : List ClientKey} (h : s.pool.Lends (j.leases ++ others)) :
    (j.abandon s m).pool.Lends others := by
  cases j with
  | planning p => exact Planning.abandon_lends p h
  | creation o p => exact Creation.abandon_lends p h
  | termination name p => exact Termination.abandon_lends p h
  | sweep p => exact Sweep.abandon_lends p h
  | reap p => exact Reap.abandon_lends p h

theorem leases_of_call {uri : String} {c : Call} (h : (part, x) ∈ j.pending f)
    (hw : x.wait = .call uri c) : ∃ key ∈ j.leases, key.uri = uri := by
  cases j with
  | planning p =>
    obtain ⟨rfl, rfl⟩ := Prod.ext_iff.1 (List.mem_singleton.1 h)
    cases p with
    | locking r t => cases hw
    | counting r t onCloud ofTemplate => exact ⟨_, .head _, (Wait.call.inj hw).1⟩
  | creation o p =>
    obtain ⟨rfl, rfl⟩ := Prod.ext_iff.1 (List.mem_singleton.1 h)
    cases p with
    | queued | registering n => cases hw
    | _ => exact ⟨_, .head _, (Wait.call.inj hw).1⟩
  | termination name p =>
    obtain ⟨rfl, rfl⟩ := Prod.ext_iff.1 (List.mem_singleton.1 h)
    exact Termination.leases_of_call hw
  | reap p =>
    obtain ⟨rfl, rfl⟩ := Prod.ext_iff.1 (List.mem_singleton.1 h)
    cases p with
    | looking now => cases hw
    | terminating n p rest report => exact Termination.leases_of_call hw
  | sweep p =>
    cases p with
    | looking =>
      obtain ⟨rfl, rfl⟩ := Prod.ext_iff.1 (List.mem_singleton.1 h)
      cases hw
    | sweeping nodes strands =>
      obtain ⟨c, p, hi, rfl⟩ := Sweep.mem_pending h
      refine ⟨c.endpoint, List.mem_flatMap.2 ⟨_, List.mem_of_getElem? hi, ?_⟩, ?_⟩
      · cases p with
        | starting => cases hw
        | _ => exact .head _
      · cases p with
        | starting => cases hw
        | _ => exact (Wait.call.inj hw).1

end Job

end Balances

def Strand.leases : Strand → List ClientKey
  | .underWay j _ => j.leases
  | _ => []

theorem Strand.leases_ofProgress (replies : List Reply) (x : Progress Job JobResult) :
    (Strand.ofProgress replies x).leases = x.holds Job.leases := by
  cases x <;> rfl

namespace Scene

def leases (s : Scene) : List ClientKey := s.strands.flatMap (·.leases)

/-- The pool is changed only by those who lease from it, and by purges. -/
def Tends (s : Scene) : Move → Prop
  | .adjust _ _ pool _ => pool = s.state.pool ∨ ∃ now, pool = (s.state.pool.purge now).2
  | _ => True

variable {f : Fleet} {may : String → Dict String → Bool} {s s' : Scene} {x : Move}

theorem lends_enter {y : Strand} (h : s.state.pool.Lends s.leases) (hy : y.leases = []) :
    (s.enter y).state.pool.Lends (s.enter y).leases := by
  have hl : (s.enter y).leases = s.leases := by
    rw [leases, enter, List.flatMap_append, List.flatMap_singleton, hy, List.append_nil]
    rfl
  rwa [hl]

theorem leases_set {pre post : List Strand} {y : Strand} (hl : s.strands = pre ++ y :: post) :
    s.leases = pre.flatMap (·.leases) ++ (y.leases ++ post.flatMap (·.leases)) := by
  rw [leases, hl, List.flatMap_append, List.flatMap_cons]

theorem leases_take {pre post : List Strand} {k : Nat} {replies : List Reply}
    {t : Turn Job JobResult} (hset : ∀ z, s.strands.set k z = pre ++ z :: post) :
    (s.take k replies t).leases =
      pre.flatMap (·.leases) ++ (t.progress.holds Job.leases ++ post.flatMap (·.leases)) := by
  have hordered : (t.ordered.map Strand.ofOrder).flatMap (·.leases) = [] := by
    refine List.flatMap_eq_nil_iff.2 fun z hz => ?_
    obtain ⟨o, -, rfl⟩ := List.mem_map.1 hz
    rfl
  simp only [leases, take, hset, List.flatMap_append, List.flatMap_cons, hordered, List.append_nil,
    Strand.leases_ofProgress]

/-- With every move the pool goes on to lend exactly what the activities hold. -/
theorem lends_move (h : s.state.pool.Lends s.leases) (hx : s.Tends x)
    (hm : s.move f may x = some s') : s'.state.pool.Lends s'.leases := by
  cases x with
  | request m label executors =>
    obtain rfl := Option.some.inj hm
    have hp : (Planning.start f s.state m label executors).state = s.state :=
      Planning.advance_state _
    rw [hp]
    refine lends_enter h ?_
    rw [Strand.leases_ofProgress]
    exact (Turn.holds_map fun _ => rfl).trans
      (Planning.holds_of_rests (Planning.start_rests label executors))
  | terminate | sweep | reap =>
    obtain rfl := Option.some.inj hm
    exact lends_enter h rfl
  | react k part now r =>
    simp only [move, react] at hm
    split at hm
    · rename_i j replies hk
      split at hm
      · split at hm
        · cases hm
        · obtain rfl := Option.some.inj hm
          obtain ⟨pre, post, hl, hset⟩ := split_at hk
          rw [leases_set hl] at h
          simp only [leases, deliver, setSite, hset, List.flatMap_append, List.flatMap_cons]
          exact h
      · cases hm
    · cases hm
  | goOn k part m admitted =>
    simp only [move, goOn] at hm
    split at hm
    · rename_i j replies hk
      split at hm
      · rename_i p hp
        obtain ⟨a, -, rfl⟩ := Option.map_eq_some_iff.1 hm
        obtain ⟨pre, post, hl, hset⟩ := split_at hk
        rw [leases_set hl] at h
        rw [leases_take hset]
        exact (Job.resume_balances (Dict.mem_of_lookup hp) a _ h.swap).swap
      · cases hm
    · cases hm
  | die k m =>
    simp only [move, die] at hm
    split at hm
    · rename_i j replies hk
      obtain rfl := Option.some.inj hm
      obtain ⟨pre, post, hl, hset⟩ := split_at hk
      rw [leases_set hl] at h
      simp only [leases, hset, List.flatMap_append, List.flatMap_cons]
      exact Job.abandon_lends h.swap
    · cases hm
  | outside uri now c =>
    simp only [move] at hm
    split at hm
    · obtain rfl := Option.some.inj hm
      exact h
    · cases hm
  | breaks uri kinds =>
    obtain rfl := Option.some.inj hm
    exact h
  | adjust clouds templates pool registry =>
    obtain rfl := Option.some.inj hm
    obtain rfl | ⟨now, rfl⟩ := hx
    · exact h
    · exact h.purge

/-- What a fleet can come to that began with nobody busy and no client made. -/
inductive Tended (f : Fleet) (may : String → Dict String → Bool) : Scene → Prop where
  | rest {s : Scene} {limit : Duration} (idle : s.strands = []) (pool : s.state.pool = .ofIdle limit) :
      Tended f may s
  | next {s s' : Scene} {x : Move} (before : Tended f may s) (tends : s.Tends x)
      (move : s.move f may x = some s') : Tended f may s'

theorem Tended.lends (h : s.Tended f may) : s.state.pool.Lends s.leases := by
  induction h with
  | rest idle pool =>
    rw [pool, leases, idle]
    exact .ofIdle _
  | next before tends move ih => exact lends_move ih tends move

theorem Tended.play {moves : List Move} (h : s.Tended f may) (hm : ∀ x ∈ moves, x.adjusts = false)
    (hp : s.play f may moves = some s') : s'.Tended f may := by
  induction moves generalizing s with
  | nil => exact Option.some.inj hp ▸ h
  | cons x moves ih =>
    obtain ⟨s₁, hx, hp⟩ := Option.bind_eq_some_iff.1 hp
    obtain ⟨hown, hm⟩ := List.forall_mem_cons.1 hm
    have htends : s.Tends x := by
      cases x with
      | adjust => cases hown
      | _ => trivial
    exact ih (h.next htends hx) hm hp

/-- Whatever activities run side by side, fail and die, a client is lent as often as activities hold it
at that time, and one that nobody holds is not in use. Nobody calls a runtime without holding a client
of it. -/
theorem lent_iff_held (h : s.Tended f may) :
    (∀ key, (s.state.pool.cache.usage? key).getD 0 = s.leases.count key) ∧
    ((∀ j replies, .underWay j replies ∉ s.strands) → s.state.pool.cache.activeSize = 0) ∧
    ∀ k part uri c, s.Waits f k part uri c → ∃ key ∈ s.leases, key.uri = uri := by
  have hlends := h.lends
  refine ⟨hlends.usage, fun hidle => ?_, fun k part uri c hwaits => ?_⟩
  · have hnone : s.leases = [] := by
      refine List.flatMap_eq_nil_iff.2 fun y hy => ?_
      cases y with
      | underWay j replies => exact absurd hy (hidle j replies)
      | _ => rfl
    rw [hnone] at hlends
    exact hlends.activeSize_eq_zero
  · obtain ⟨j, replies, hk, hw⟩ := hwaits
    obtain ⟨x, hx, hcall⟩ := Option.map_eq_some_iff.1 hw
    obtain ⟨key, hkey, huri⟩ := Job.leases_of_call (Dict.mem_of_lookup hx) hcall
    exact ⟨key, List.mem_flatMap.2 ⟨_, List.mem_of_getElem? hk, hkey⟩, huri⟩

/-- A request and a sweep hold a client both, until the listing for the request fails. -/
theorem lent_iff_held_unlisted : ∃ s key,
    sample.play .one (fun _ _ => false) [.request (.sample 1) none 1, .sweep,
      .goOn 0 0 (.sample 1) true, .goOn 1 0 (.sample 1) true, .goOn 1 0 (.sample 1) true,
      .breaks "tcp://h:1" [.list], .react 0 0 .epoch .obeys, .goOn 0 0 (.sample 1) true] = some s ∧
    s.leases = [key] ∧ (s.state.pool.cache.usage? key).getD 0 = 1 := by
  obtain ⟨s, key, hplay, hleases⟩ : ∃ s key,
      sample.play .one (fun _ _ => false) [.request (.sample 1) none 1, .sweep,
        .goOn 0 0 (.sample 1) true, .goOn 1 0 (.sample 1) true, .goOn 1 0 (.sample 1) true,
        .breaks "tcp://h:1" [.list], .react 0 0 .epoch .obeys, .goOn 0 0 (.sample 1) true] = some s ∧
      s.leases = [key] := ⟨_, _, rfl, rfl⟩
  have hrest : sample.Tended .one (fun _ _ => false) := .rest rfl rfl
  have hlent := (lent_iff_held (hrest.play (by simp [Move.adjusts]) hplay)).1 key
  refine ⟨s, key, hplay, hleases, ?_⟩
  rw [hlent, hleases]
  exact List.count_singleton_self

end Scene

end ContainerFleet
