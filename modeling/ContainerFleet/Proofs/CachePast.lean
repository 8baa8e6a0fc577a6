import ContainerFleet.Proofs.Cache

namespace ContainerFleet

inductive CacheEvent (K V : Type) where
  | stored (k : K) (v : V)
  | lent (k : K) (v : V)
  | missed (k : K)
  | released (k : K)
  | closed (k : K) (v : V)

variable {K V : Type} [DecidableEq K]

namespace CacheEvent

def key : CacheEvent K V → K
  | stored k _ | lent k _ | missed k | released k | closed k _ => k

def stored? (k : K) : CacheEvent K V → Option V
  | stored k' v => if k' = k then some v else none
  | _ => none

def closed? (k : K) : CacheEvent K V → Option V
  | closed k' v => if k' = k then some v else none
  | _ => none

def isLent (k : K) : CacheEvent K V → Bool
  | lent k' _ => k' = k
  | _ => false

def isReleased (k : K) : CacheEvent K V → Bool
  | released k' => k' = k
  | _ => false

def isClosing : CacheEvent K V → Bool
  | closed _ _ => true
  | _ => false

theorem silent_of_ne {x : CacheEvent K V} {k : K} (h : x.key ≠ k) :
    x.stored? k = none ∧ x.closed? k = none ∧ x.isLent k = false ∧ x.isReleased k = false := by
  cases x <;> simp_all [key, stored?, closed?, isLent, isReleased]

end CacheEvent

abbrev CachePast (K V : Type) := List (Duration × CacheEvent K V)

namespace CachePast

variable {past new : CachePast K V} {k : K}

def stored (past : CachePast K V) (k : K) : List V := past.filterMap (·.2.stored? k)

def closed (past : CachePast K V) (k : K) : List V := past.filterMap (·.2.closed? k)

def lent (past : CachePast K V) (k : K) : Nat := past.countP (·.2.isLent k)

def released (past : CachePast K V) (k : K) : Nat := past.countP (·.2.isReleased k)

def closings (past : CachePast K V) : Nat := past.countP (·.2.isClosing)

def Spares (past : CachePast K V) (k : K) : Prop := ∀ x ∈ past, x.2.key ≠ k

/-- At the time `t` nobody has held the value of the key for `limit` or longer: its last event was the
release by its last holder. -/
def Rests (past : CachePast K V) (limit t : Duration) (k : K) : Prop :=
  (past.stored k).length + past.lent k = past.released k ∧
    ∃ older s newer, past = older ++ (s, .released k) :: newer ∧ Spares newer k ∧ s ≤ t ∧ limit ≤ t - s

def Timely (past : CachePast K V) (limit : Duration) : Prop :=
  ∀ older t k v newer, past = older ++ (t, .closed k v) :: newer → Rests older limit t k

theorem stored_append : stored (past ++ new) k = past.stored k ++ new.stored k :=
  List.filterMap_append

theorem closed_append : closed (past ++ new) k = past.closed k ++ new.closed k :=
  List.filterMap_append

theorem lent_append : lent (past ++ new) k = past.lent k + new.lent k := List.countP_append

theorem released_append : released (past ++ new) k = past.released k + new.released k :=
  List.countP_append

section

variable {t : Duration} {x : CacheEvent K V}

@[simp] theorem stored_concat :
    stored (past ++ [(t, x)]) k = past.stored k ++ (x.stored? k).toList := by
  rw [stored_append]
  cases h : x.stored? k <;> simp [stored, h]

@[simp] theorem closed_concat :
    closed (past ++ [(t, x)]) k = past.closed k ++ (x.closed? k).toList := by
  rw [closed_append]
  cases h : x.closed? k <;> simp [closed, h]

@[simp] theorem lent_concat :
    lent (past ++ [(t, x)]) k = past.lent k + if x.isLent k then 1 else 0 := by
  rw [lent_append]
  simp [lent, List.countP_cons]

@[simp] theorem released_concat :
    released (past ++ [(t, x)]) k = past.released k + if x.isReleased k then 1 else 0 := by
  rw [released_append]
  simp [released, List.countP_cons]

end

theorem Spares.stored (h : new.Spares k) : new.stored k = [] :=
  List.filterMap_eq_nil_iff.2 fun x hx => (CacheEvent.silent_of_ne (h x hx)).1

theorem Spares.closed (h : new.Spares k) : new.closed k = [] :=
  List.filterMap_eq_nil_iff.2 fun x hx => (CacheEvent.silent_of_ne (h x hx)).2.1

theorem Spares.lent (h : new.Spares k) : new.lent k = 0 :=
  List.countP_eq_zero.2 fun x hx => by simp [(CacheEvent.silent_of_ne (h x hx)).2.2.1]

theorem Spares.released (h : new.Spares k) : new.released k = 0 :=
  List.countP_eq_zero.2 fun x hx => by simp [(CacheEvent.silent_of_ne (h x hx)).2.2.2]

omit [DecidableEq K] in
theorem Spares.append (h : past.Spares k) (h' : new.Spares k) : Spares (past ++ new) k :=
  fun x hx => (List.mem_append.1 hx).elim (h x) (h' x)

attribute [simp] CacheEvent.stored? CacheEvent.closed? CacheEvent.isLent CacheEvent.isReleased

structure Tracks (past : CachePast K V) (now : Duration) (k : K) (e : Option (CacheEntry V)) :
    Prop where
  values : past.stored k = past.closed k ++ (e.map (·.value)).toList
  balance : (past.stored k).length + past.lent k = past.released k + (e.map (·.usage)).getD 0
  held : ∀ v u, e = some (.active v u) → 0 < u
  idle : ∀ v s, e = some (.idle v s) → s ≤ now ∧
    ∃ older newer, past = older ++ (s, .released k) :: newer ∧ Spares newer k

namespace Tracks

variable {now : Duration} {e : Option (CacheEntry V)} {x : CacheEntry V} {v : V} {u : Nat}

theorem later (h : past.Tracks now k e) {now' : Duration} (hn : now ≤ now') : past.Tracks now' k e :=
  ⟨h.values, h.balance, h.held, fun v s he => ⟨Nat.le_trans (h.idle v s he).1 hn, (h.idle v s he).2⟩⟩

theorem elsewhere (h : past.Tracks now k e) (hs : new.Spares k) : Tracks (past ++ new) now k e := by
  refine ⟨?_, ?_, h.held, fun v s he => ?_⟩
  · rw [stored_append, closed_append, hs.stored, hs.closed, List.append_nil, List.append_nil, h.values]
  · rw [stored_append, lent_append, released_append, hs.stored, hs.lent, hs.released, List.append_nil]
    exact h.balance
  · obtain ⟨hle, older, newer, rfl, hn⟩ := h.idle v s he
    exact ⟨hle, older, newer ++ new, by simp, hn.append hs⟩

theorem missed (h : past.Tracks now k none) : Tracks (past ++ [(now, .missed k)]) now k none := by
  refine ⟨?_, ?_, fun _ _ he => (by cases he), fun _ _ he => (by cases he)⟩
  · simp [h.values]
  · simpa using h.balance

theorem kept (h : past.Tracks now k none) (v : V) :
    Tracks (past ++ [(now, .stored k v)]) now k (some (.active v 1)) := by
  refine ⟨?_, ?_, fun _ _ he => ?_, fun _ _ he => (by cases he)⟩
  · simp [h.values]
  · have hb := h.balance
    simp at hb ⊢
    omega
  · cases he
    exact Nat.one_pos

theorem lend (h : past.Tracks now k (some x)) :
    Tracks (past ++ [(now, .lent k x.value)]) now k (some (.active x.value (x.usage + 1))) := by
  refine ⟨?_, ?_, fun _ _ he => ?_, fun _ _ he => (by cases he)⟩
  · simp [h.values]
  · have hb := h.balance
    simp at hb ⊢
    omega
  · cases he
    exact Nat.succ_pos _

theorem giveBack (h : past.Tracks now k (some (.active v u))) :
    Tracks (past ++ [(now, .released k)]) now k (some (Cache.givenBack now v u)) := by
  have hu := h.held v u rfl
  have hb := h.balance
  unfold Cache.givenBack
  split
  · refine ⟨?_, ?_, fun _ _ he => (by cases he), fun _ _ he => ?_⟩
    · simp [h.values]
    · simp at hb ⊢
      omega
    · cases he
      exact ⟨Nat.le_refl _, past, [], rfl, fun x hx => by cases hx⟩
  · refine ⟨?_, ?_, fun _ _ he => ?_, fun _ _ he => (by cases he)⟩
    · simp [h.values]
    · simp at hb ⊢
      omega
    · cases he
      omega

theorem close {s : Duration} (h : past.Tracks now k (some (.idle v s))) :
    Tracks (past ++ [(now, .closed k v)]) now k none := by
  refine ⟨?_, ?_, fun _ _ he => (by cases he), fun _ _ he => (by cases he)⟩
  · simp [h.values]
  · simpa using h.balance

theorem rests {s limit : Duration} (h : past.Tracks now k (some (.idle v s)))
    (hl : limit ≤ now - s) : past.Rests limit now k := by
  obtain ⟨hle, older, newer, hp, hn⟩ := h.idle v s rfl
  exact ⟨by simpa using h.balance, older, s, newer, hp, hn, hle, hl⟩

end Tracks

theorem Rests.elsewhere {limit t : Duration} (h : past.Rests limit t k) (hs : new.Spares k) :
    Rests (past ++ new) limit t k := by
  obtain ⟨hb, older, s, newer, rfl, hn, hle, hl⟩ := h
  refine ⟨?_, older, s, newer ++ new, by simp, hn.append hs, hle, hl⟩
  rw [stored_append, lent_append, released_append, hs.stored, hs.lent, hs.released, List.append_nil]
  exact hb

theorem Timely.append {limit : Duration} (h : past.Timely limit)
    (hnew : ∀ older t k v newer, new = older ++ (t, .closed k v) :: newer →
      Rests (past ++ older) limit t k) : Timely (past ++ new) limit := by
  intro older t k v newer he
  obtain ⟨xs, rfl, hx⟩ | ⟨xs, hp, hx⟩ := List.append_eq_append_iff.1 he
  · exact hnew xs t k v newer hx
  · cases xs with
    | nil =>
      have hrest := hnew [] t k v newer hx.symm
      rwa [List.append_nil, hp, List.append_nil] at hrest
    | cons x xs =>
      obtain ⟨rfl, -⟩ := List.cons.inj hx
      exact h older t k v xs hp

/-- Neither a checkout nor a release of the key has succeeded. -/
def Quiet (past : CachePast K V) (k : K) : Prop := past.lent k = 0 ∧ past.released k = 0

theorem Spares.quiet (h : past.Spares k) : past.Quiet k := ⟨h.lent, h.released⟩

/-- If a value is in use after some events, they have counted, or it was the first of them that put it
in use. -/
def Counts (new : CachePast K V) (k : K) (e e' : Option (CacheEntry V)) : Prop :=
  ∀ v u, e' = some (.active v u) →
    (∃ n, e = some (.active v n) ∧ u + new.released k = n + new.lent k) ∨
      (∀ w n, e ≠ some (.active w n)) ∧ u = 1

namespace Counts

variable {e e₁ e' : Option (CacheEntry V)} {x : CacheEntry V} {t : Duration} {v : V} {u : Nat}

theorem of_quiet (hq : new.Quiet k) (he : ∀ v u, e' = some (.active v u) → e = some (.active v u)) :
    new.Counts k e e' := by
  intro v u h
  exact .inl ⟨u, he v u h, by rw [hq.1, hq.2]⟩

theorem after (hq : past.Quiet k) (he : ∀ v u, e₁ = some (.active v u) ↔ e = some (.active v u))
    (h : new.Counts k e₁ e') : Counts (past ++ new) k e e' := by
  intro v u h'
  obtain ⟨n, hn, hc⟩ | ⟨hn, hu⟩ := h v u h'
  · refine .inl ⟨n, (he v n).1 hn, ?_⟩
    rw [lent_append, released_append, hq.1, hq.2, Nat.zero_add, Nat.zero_add, hc]
  · exact .inr ⟨fun w n hw => hn w n ((he w n).2 hw), hu⟩

theorem before (hq : new.Quiet k) (he : ∀ v u, e' = some (.active v u) → e₁ = some (.active v u))
    (h : past.Counts k e e₁) : Counts (past ++ new) k e e' := by
  intro v u h'
  obtain ⟨n, hn, hc⟩ | hfirst := h v u (he v u h')
  · refine .inl ⟨n, hn, ?_⟩
    rw [lent_append, released_append, hq.1, hq.2, Nat.add_zero, Nat.add_zero, hc]
  · exact .inr hfirst

theorem lend : Counts [(t, .lent k x.value)] k (some x) (some (.active x.value (x.usage + 1))) := by
  intro v u h
  cases h
  cases x with
  | active v n => exact .inl ⟨n, rfl, by simp [lent, released]⟩
  | idle v s => exact .inr ⟨fun w n hw => (by cases hw), rfl⟩

theorem kept : Counts [(t, .stored k v)] k none (some (.active v 1)) := by
  intro w u h
  cases h
  exact .inr ⟨fun w n hw => (by cases hw), rfl⟩

theorem giveBack : Counts [(t, .released k)] k (some (.active v u)) (some (Cache.givenBack t v u)) := by
  intro w n h
  unfold Cache.givenBack at h
  split at h
  · cases h
  · cases h
    refine .inl ⟨u, rfl, ?_⟩
    simp [lent, released]
    omega

end Counts

end CachePast

end ContainerFleet
