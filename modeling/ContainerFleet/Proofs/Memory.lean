import ContainerFleet.Container.Memory
import ContainerFleet.Proofs.Dict

namespace ContainerFleet

def CreateSpec.container (s : CreateSpec) (id : String) (now : Timestamp) : Container :=
  { id, name := s.name, image := s.image, status := some "created", running := false, created := now
    labels := s.labels }

namespace Memory

def numberOf (id : String) : Nat :=
  id.toList.foldl (fun n c => 16 * n + (Text.hexValue? c).getD 0) 0

theorem hexValue?_digitChar : ∀ d < 16, (Text.hexValue? d.digitChar).getD 0 = d := by decide

theorem foldl_toDigits (n : Nat) :
    (Nat.toDigits 16 n).foldl (fun n c => 16 * n + (Text.hexValue? c).getD 0) 0 = n := by
  induction n using Nat.strongRecOn with
  | ind n ih =>
    by_cases h : n < 16
    · rw [Nat.toDigits_of_lt_base h]
      simpa using hexValue?_digitChar n h
    · have hlt : n % 16 < 16 := Nat.mod_lt _ (by decide)
      have hd := hexValue?_digitChar (n % 16) hlt
      rw [Nat.toDigits_of_base_le (by decide) (by omega), List.foldl_append, ih (n / 16) (by omega)]
      simp only [List.foldl_cons, List.foldl_nil, hd]
      omega

theorem numberOf_idOf (n : Nat) : numberOf (idOf n) = n := by
  have hz : ∀ k, (List.replicate k '0').foldl
      (fun n c => 16 * n + (Text.hexValue? c).getD 0) 0 = 0 := by
    intro k
    induction k with
    | zero => rfl
    | succ k ih =>
      rw [List.replicate_succ, List.foldl_cons]
      exact ih
  rw [numberOf, idOf, Text.padZero, String.toList_append, String.toList_ofList, List.foldl_append,
    hz, Text.hex, String.toList_ofList]
  exact foldl_toDigits n

theorem idOf_injective : Function.Injective idOf := fun a b h => by
  have h := congrArg numberOf h
  rwa [numberOf_idOf, numberOf_idOf] at h

variable {m : Memory} {p : Dict String → Bool} {id : String} {now : Timestamp}

def running (m : Memory) (p : Dict String → Bool) : List String :=
  (m.containers.toList.filter fun e => e.2.running && p e.2.labels).map (·.1)

theorem mem_running :
    id ∈ m.running p ↔ ∃ c, m.get? id = some c ∧ c.running = true ∧ p c.labels = true := by
  simp only [running, Dict.toList, List.mem_map, List.mem_filter, Bool.and_eq_true, Memory.get?,
    Dict.get?_eq_some_iff]
  constructor
  · rintro ⟨e, ⟨he, hc⟩, rfl⟩
    exact ⟨e.2, he, hc⟩
  · rintro ⟨c, he, hc⟩
    exact ⟨(id, c), ⟨he, hc⟩, rfl⟩

theorem running_nodup : (m.running p).Nodup :=
  m.containers.keys_nodup.sublist (List.filter_sublist.map _)

theorem countP_listed :
    ((m.listed {}).map (·.summary)).countP (p ·.labels) = (m.running p).length := by
  rw [listed, Dict.values, running, List.filter_map, List.map_map, List.countP_map, List.length_map,
    List.countP_eq_length_filter, List.filter_filter]
  congr 1
  apply List.filter_congr
  intro e _
  simp [ListFilter.admits, Dict.toList, Dict.empty, Container.summary, Bool.and_comm]

theorem running_mono {q : Dict String → Bool} (h : ∀ l, p l = true → q l = true) :
    (m.running p).length ≤ (m.running q).length := by
  apply running_nodup.length_le_of_subset
  intro id hid
  obtain ⟨c, hc, hr, hp⟩ := mem_running.1 hid
  exact mem_running.2 ⟨c, hc, hr, h _ hp⟩

section Calls

variable {k : String} {e : RuntimeError} {g : Container → Container} {force : Bool} {spec : CreateSpec}

theorem update_ok_iff : (m.update id g).1 = .ok () ↔ ∃ x, m.get? id = some x := by
  unfold update
  split <;> simp_all

theorem get?_update : (m.update id g).2.get? k = if k = id then (m.get? id).map g else m.get? k := by
  unfold update
  split
  · rename_i hx
    by_cases hk : k = id
    · rw [if_pos hk, hk, hx, Option.map_none]
    · exact (if_neg hk).symm
  · rename_i x hx
    rw [hx, Option.map_some]
    exact Dict.get?_insert

theorem update_failed (h : (m.update id g).1 = .error e) : (m.update id g).2 = m := by
  unfold update at h ⊢
  split at h
  · rfl
  · cases h

theorem remove_ok_iff :
    (m.remove id force).1 = .ok () ↔ ∃ x, m.get? id = some x ∧ (x.running = true → force = true) := by
  unfold remove
  split
  · simp_all
  · rename_i x hx
    cases hr : x.running <;> cases force <;> simp [hx, hr]

theorem get?_remove (h : (m.remove id force).1 = .ok ()) :
    (m.remove id force).2.get? k = if k = id then none else m.get? k := by
  unfold remove at h ⊢
  split at h
  · cases h
  · split at h
    · cases h
    · rename_i hrun
      rw [if_neg hrun]
      exact Dict.get?_erase

theorem remove_failed (h : (m.remove id force).1 = .error e) : (m.remove id force).2 = m := by
  unfold remove at h ⊢
  split at h
  · rfl
  · split at h
    · rename_i hrun
      rw [if_pos hrun]
    · cases h

def Free (m : Memory) (name : String) : Prop := ∀ k x, m.get? k = some x → x.name ≠ name

theorem any_name_iff {name : String} :
    m.containers.values.any (·.name = name) = true ↔ ¬ m.Free name := by
  simp only [Free, Memory.get?, List.any_eq_true, Dict.mem_values_iff, decide_eq_true_eq, ne_eq,
    Classical.not_forall, Classical.not_not, exists_prop]
  exact ⟨fun ⟨x, ⟨k, hx⟩, hn⟩ => ⟨k, x, hx, hn⟩, fun ⟨k, x, hx, hn⟩ => ⟨x, ⟨k, hx⟩, hn⟩⟩

theorem create_of_free (h : m.Free spec.name) : m.create now spec = (.ok (idOf (m.issued + 1)),
    { m with
      issued := m.issued + 1
      containers := m.containers.insert (idOf (m.issued + 1)) (spec.container (idOf (m.issued + 1)) now) }) :=
  if_neg fun hn => any_name_iff.1 hn h

theorem create_of_not_free (h : ¬ m.Free spec.name) :
    m.create now spec = (.error (.conflict s!"container name {spec.name} already in use"), m) :=
  if_pos (any_name_iff.2 h)

theorem create_ok_iff : (m.create now spec).1 = .ok id ↔ m.Free spec.name ∧ id = idOf (m.issued + 1) := by
  by_cases h : m.Free spec.name
  · simp [create_of_free h, h, eq_comm]
  · simp [create_of_not_free h, h]

theorem get?_create (h : (m.create now spec).1 = .ok id) :
    (m.create now spec).2.get? k = if k = id then some (spec.container id now) else m.get? k := by
  obtain ⟨hfree, rfl⟩ := create_ok_iff.1 h
  rw [create_of_free hfree]
  exact Dict.get?_insert

theorem create_failed (h : (m.create now spec).1 = .error e) : (m.create now spec).2 = m := by
  by_cases hfree : m.Free spec.name
  · rw [create_of_free hfree] at h
    cases h
  · rw [create_of_not_free hfree]

section Gate

variable {α : Type} {b : Bool} {p : Except RuntimeError α × Memory} {e' : RuntimeError} {a : α}

theorem gate_ok_iff : (if b = true then (.error e, m) else p).1 = .ok a ↔ b = false ∧ p.1 = .ok a := by
  cases b <;> simp

theorem gate_of_ok (h : (if b = true then (.error e, m) else p).1 = .ok a) :
    (if b = true then (.error e, m) else p) = p := by
  rw [(gate_ok_iff.1 h).1]
  rfl

theorem gate_failed (hp : p.1 = .error e → p.2 = m)
    (h : (if b = true then (.error e', m) else p).1 = .error e) :
    (if b = true then (.error e', m) else p).2 = m := by
  cases b with
  | true => rfl
  | false => exact hp h

end Gate

variable (m now)

theorem answer_create_eq (spec : CreateSpec) : m.answer now (.create spec) =
    if m.isBroken .create = true then (.error (brokenError .create), m) else m.create now spec := rfl

theorem answer_start_eq (id : String) : m.answer now (.start id) =
    if m.isBroken .start = true then (.error (brokenError .start), m) else m.update id (·.started) := rfl

theorem answer_stop_eq (id : String) (timeout : Duration) : m.answer now (.stop id timeout) =
    if m.isBroken .stop = true then (.error (brokenError .stop), m) else m.update id (·.stopped) := rfl

theorem answer_remove_eq (id : String) (o : RemoveOptions) : m.answer now (.remove id o) =
    if m.isBroken .remove = true then (.error (brokenError .remove), m) else m.remove id o.force := rfl

theorem answer_list_eq (f : ListFilter) : m.answer now (.list f) =
    if m.isBroken .list = true then (.error (brokenError .list), m)
    else (.ok ((m.listed f).map (·.summary)), m) := rfl

variable {m now}

end Calls

/-- `m'` comes from `m` by calls that start only containers in `starts` and create only containers
with labels in `makes`. -/
structure Follows (m m' : Memory) (starts : String → Prop) (makes : Dict String → Prop) : Prop where
  issued : m.issued ≤ m'.issued
  each : ∀ id c', m'.get? id = some c' →
    (∃ c, m.get? id = some c ∧ c'.labels = c.labels ∧
      (c'.running = true → c.running = true ∨ starts id)) ∨
    (∃ n, id = idOf n ∧ m.issued < n ∧ c'.running = false ∧ makes c'.labels)

theorem Follows.refl {starts : String → Prop} {makes : Dict String → Prop} :
    m.Follows m starts makes :=
  ⟨Nat.le_refl _, fun _ c h => .inl ⟨c, h, rfl, .inl⟩⟩

theorem Follows.imp {m' : Memory} {starts starts' : String → Prop} {makes makes' : Dict String → Prop}
    (h : m.Follows m' starts makes) (hs : ∀ id, starts id → starts' id)
    (hm : ∀ l, makes l → makes' l) : m.Follows m' starts' makes' := by
  refine ⟨h.issued, fun id c' hc => ?_⟩
  obtain ⟨c, hget, hl, hr⟩ | ⟨n, hid, hlt, hr, hl⟩ := h.each id c' hc
  · exact .inl ⟨c, hget, hl, fun h => (hr h).imp_right (hs id)⟩
  · exact .inr ⟨n, hid, hlt, hr, hm _ hl⟩

theorem Follows.running {m' : Memory} {starts : String → Prop} {makes : Dict String → Prop}
    (h : m.Follows m' starts makes) (hid : id ∈ m'.running p) :
    id ∈ m.running p ∨ starts id ∧ ∃ c, m.get? id = some c ∧ p c.labels = true := by
  obtain ⟨c', hc', hr', hp⟩ := mem_running.1 hid
  obtain ⟨c, hc, hl, hr⟩ | ⟨n, _, _, hr, _⟩ := h.each id c' hc'
  · rw [hl] at hp
    obtain hr | hs := hr hr'
    · exact .inl (mem_running.2 ⟨c, hc, hr, hp⟩)
    · exact .inr ⟨hs, c, hc, hp⟩
  · rw [hr'] at hr
    cases hr

theorem update_follows {f : Container → Container} {starts : String → Prop}
    {makes : Dict String → Prop} (hl : ∀ c, (f c).labels = c.labels)
    (hr : ∀ c, (f c).running = true → c.running = true ∨ starts id) :
    m.Follows (m.update id f).2 starts makes := by
  unfold update
  split
  · exact .refl
  · rename_i c hc
    refine ⟨Nat.le_refl _, fun k c' hk => .inl ?_⟩
    simp only [Memory.get?, Dict.get?_insert] at hk
    split at hk
    · rename_i h
      obtain rfl : f c = c' := Option.some.inj hk
      exact ⟨c, h ▸ hc, hl c, h ▸ hr c⟩
    · exact ⟨c', hk, rfl, .inl⟩

theorem remove_follows {force : Bool} {starts : String → Prop} {makes : Dict String → Prop} :
    m.Follows (m.remove id force).2 starts makes := by
  unfold remove
  split
  · exact .refl
  · split
    · exact .refl
    · refine ⟨Nat.le_refl _, fun k c' hk => .inl ?_⟩
      simp only [Memory.get?, Dict.get?_erase] at hk
      split at hk
      · cases hk
      · exact ⟨c', hk, rfl, .inl⟩

theorem create_follows {spec : CreateSpec} {starts : String → Prop} :
    m.Follows (m.create now spec).2 starts (· = spec.labels) := by
  unfold create
  split
  · exact .refl
  · refine ⟨Nat.le_succ _, fun k c' hk => ?_⟩
    simp only [Memory.get?, Dict.get?_insert] at hk
    split at hk
    · rename_i h
      obtain rfl := Option.some.inj hk
      exact .inr ⟨m.issued + 1, h, Nat.lt_succ_self _, rfl, rfl⟩
    · exact .inl ⟨c', hk, rfl, .inl⟩

theorem broken_answer (c : Call) : (m.answer now c).2.broken = m.broken := by
  unfold answer
  split
  · rfl
  · cases c with
    | create spec =>
      simp only [create]
      split <;> rfl
    | start id | stop id timeout =>
      simp only [update]
      split <;> rfl
    | remove id options =>
      simp only [remove]
      split
      · rfl
      · split <;> rfl
    | _ => rfl

/-- A container runs after a call only if it ran before or the call starts it. -/
theorem answer_follows (c : Call) :
    m.Follows (m.answer now c).2 (fun id => c = .start id)
      (fun l => ∃ spec, c = .create spec ∧ l = spec.labels) := by
  unfold answer
  split
  · exact .refl
  · cases c with
    | list f => exact .refl
    | inspect id => exact .refl
    | create spec =>
      have hc : m.Follows (m.create now spec).2 (fun id => Call.create spec = .start id)
          (· = spec.labels) := create_follows
      obtain ⟨hi, he⟩ := hc
      refine ⟨hi, fun k c' hk => (he k c' hk).imp_right ?_⟩
      rintro ⟨n, hn, hlt, hr, hl⟩
      exact ⟨n, hn, hlt, hr, spec, rfl, hl⟩
    | start id => exact update_follows (fun _ => rfl) fun _ _ => .inr rfl
    | stop id timeout =>
      refine update_follows (fun _ => rfl) fun _ h => ?_
      cases h
    | remove id options => exact remove_follows

/-- A created container has an id that was not given out before, and the labels asked for. -/
theorem answer_create {spec : CreateSpec} (h : (m.answer now (.create spec)).1 = .ok id) :
    ∃ n, id = idOf n ∧ n ≤ (m.answer now (.create spec)).2.issued ∧
      ∃ c, (m.answer now (.create spec)).2.get? id = some c ∧ c.labels = spec.labels := by
  have hcall : m.answer now (.create spec) = m.create now spec := gate_of_ok h
  rw [hcall] at h ⊢
  obtain ⟨hfree, rfl⟩ := create_ok_iff.1 h
  rw [create_of_free hfree]
  exact ⟨_, rfl, Nat.le_refl _, _, Dict.get?_insert.trans (if_pos rfl), rfl⟩

theorem answer_list (now : Timestamp) (f : ListFilter) :
    (m.answer now (.list f)).2 = m ∧
      ∀ l, (m.answer now (.list f)).1 = .ok l → l = (m.listed f).map (·.summary) := by
  rw [answer_list_eq]
  split
  · refine ⟨rfl, fun l h => ?_⟩
    cases h
  · exact ⟨rfl, fun l h => (Except.ok.inj h).symm⟩

end Memory

end ContainerFleet
