import ContainerFleet.Dict

namespace ContainerFleet.Dict

variable {ν μ : Type} {d e : Dict ν} {k k' : String} {v : ν}

@[simp] theorem get?_empty : (empty : Dict ν).get? k = none := rfl

theorem mem_of_lookup {κ : Type} [BEq κ] [LawfulBEq κ] {es : List (κ × ν)} {k : κ}
    (h : es.lookup k = some v) : (k, v) ∈ es := by
  obtain ⟨pre, post, rfl, _⟩ := List.lookup_eq_some_iff.1 h
  exact List.mem_append_right _ List.mem_cons_self

theorem lookup_cons {κ : Type} [DecidableEq κ] {k : κ} (x : κ × ν) (es : List (κ × ν)) :
    (x :: es).lookup k = if k = x.1 then some x.2 else es.lookup k := by
  obtain ⟨l, w⟩ := x
  by_cases h : k = l
  · simp [h]
  · simp [List.lookup_cons, h, beq_eq_false_iff_ne.2 h]

theorem lookup_put (es : List (String × ν)) :
    (put k v es).lookup k' = if k' = k then some v else es.lookup k' := by
  induction es with
  | nil => simp [put, lookup_cons]
  | cons x es ih =>
    simp only [put]
    split
    · rw [lookup_cons]
    · split
      · rename_i hx
        by_cases h : k' = k <;> simp [lookup_cons, h, ← hx]
      · rename_i hx
        by_cases h : k' = x.1
        · have hk : x.1 ≠ k := fun hk => hx hk.symm
          simp [lookup_cons, h, hk]
        · simp [lookup_cons, h, ih]

@[simp] theorem get?_insert : (d.insert k v).get? k' = if k' = k then some v else d.get? k' :=
  lookup_put d.entries

theorem get?_insert_eq_some_iff {w : ν} (h : d.get? k = none) :
    (d.insert k v).get? k' = some w ↔ d.get? k' = some w ∨ k' = k ∧ w = v := by
  rw [get?_insert]
  by_cases hk : k' = k
  · simp [hk, h, eq_comm]
  · simp [hk]

theorem put_of_lt {es : List (String × ν)} (h : ∀ e ∈ es, e.1 < k) :
    put k v es = es ++ [(k, v)] := by
  induction es with
  | nil => rfl
  | cons e es ih =>
    have he := h e List.mem_cons_self
    have hlt : ¬ k < e.1 := fun hk => String.lt_irrefl _ (String.lt_trans he hk)
    have hne : k ≠ e.1 := fun hk => String.lt_irrefl _ (hk ▸ he)
    rw [put, if_neg hlt, if_neg hne, ih fun x hx => h x (List.mem_cons_of_mem _ hx)]
    rfl

theorem lookup_eq_some_iff {κ : Type} [DecidableEq κ] {es : List (κ × ν)} {k : κ}
    (h : (es.map (·.1)).Nodup) : es.lookup k = some v ↔ (k, v) ∈ es := by
  induction es with
  | nil => simp
  | cons x es ih =>
    obtain ⟨hn, hs⟩ := List.nodup_cons.1 h
    by_cases hk : k = x.1
    · have hm : (k, v) ∉ es := fun hm => hn (List.mem_map.2 ⟨_, hm, hk⟩)
      subst hk
      simp [lookup_cons, hm, Prod.ext_iff, eq_comm]
    · simp [lookup_cons, hk, ih hs, Prod.ext_iff]

theorem lookup_of_single {es : List (String × ν)}
    (h : (es.filter (·.1 = k)).length ≤ 1) (hv : (k, v) ∈ es) : es.lookup k = some v := by
  induction es with
  | nil => cases hv
  | cons e es ih =>
    rw [lookup_cons]
    by_cases hk : k = e.1
    · rw [List.filter_cons_of_pos (by simp [hk]), List.length_cons] at h
      have hnil : es.filter (·.1 = k) = [] := List.length_eq_zero_iff.1 (by omega)
      obtain rfl | hv := List.mem_cons.1 hv
      · rw [if_pos rfl]
      · have hmem : (k, v) ∈ es.filter (·.1 = k) := List.mem_filter.2 ⟨hv, by simp⟩
        rw [hnil] at hmem
        cases hmem
    · rw [List.filter_cons_of_neg (by simpa using Ne.symm hk)] at h
      obtain rfl | hv := List.mem_cons.1 hv
      · exact absurd rfl hk
      · rw [if_neg hk, ih h hv]

theorem lookup_filter {κ : Type} [DecidableEq κ] {es : List (κ × ν)} {k : κ}
    (h : (es.map (·.1)).Nodup) (p : κ × ν → Bool) :
    (es.filter p).lookup k = (es.lookup k).filter fun v => p (k, v) := by
  apply Option.ext
  intro v
  have hs : ((es.filter p).map (·.1)).Nodup := h.sublist (List.filter_sublist.map _)
  rw [lookup_eq_some_iff hs, Option.filter_eq_some_iff, lookup_eq_some_iff h, List.mem_filter]

theorem keys_nodup (d : Dict ν) : d.keys.Nodup := by
  rw [keys, List.Nodup, List.pairwise_map]
  exact d.sorted.imp fun h => fun he => absurd (he ▸ h) (String.lt_irrefl _)

theorem get?_eq_some_iff : d.get? k = some v ↔ (k, v) ∈ d.entries :=
  lookup_eq_some_iff d.keys_nodup

theorem get?_eq_none_iff : d.get? k = none ↔ ∀ v, (k, v) ∉ d.entries := by
  rw [Option.eq_none_iff_forall_ne_some]
  exact forall_congr' fun v => not_congr get?_eq_some_iff

theorem mem_values_iff : v ∈ d.values ↔ ∃ k, d.get? k = some v := by
  simp [values, get?_eq_some_iff]

@[simp] theorem get?_filter {p : String → ν → Bool} :
    (d.filter p).get? k = (d.get? k).filter (p k) :=
  lookup_filter d.keys_nodup fun e => p e.1 e.2

@[simp] theorem get?_erase : (d.erase k).get? k' = if k' = k then none else d.get? k' := by
  rw [erase, get?_filter]
  by_cases h : k' = k <;> cases d.get? k' <;> simp [h]

@[simp] theorem get?_map {f : String → ν → μ} : (d.map f).get? k = (d.get? k).map (f k) := by
  apply Option.ext
  intro w
  rw [get?_eq_some_iff, Option.map_eq_some_iff]
  simp only [map, List.mem_map, Prod.mk.injEq, Prod.exists, get?_eq_some_iff]
  constructor
  · rintro ⟨a, b, hm, rfl, rfl⟩
    exact ⟨b, hm, rfl⟩
  · rintro ⟨b, hm, rfl⟩
    exact ⟨k, b, hm, rfl, rfl⟩

@[simp] theorem contains_insert : (d.insert k v).contains k' = (decide (k' = k) || d.contains k') := by
  by_cases h : k' = k <;> simp [contains, h]

@[simp] theorem contains_erase : (d.erase k).contains k' = (decide (k' ≠ k) && d.contains k') := by
  by_cases h : k' = k <;> simp [contains, h]

theorem eq_of_sorted {es fs : List (String × ν)} (he : es.Pairwise (fun a b => a.1 < b.1))
    (hf : fs.Pairwise (fun a b => a.1 < b.1)) (h : ∀ x, x ∈ es ↔ x ∈ fs) : es = fs := by
  induction es generalizing fs with
  | nil => exact (List.eq_nil_iff_forall_not_mem.2 fun x hx => by simpa using (h x).2 hx).symm
  | cons y es ih =>
    cases fs with
    | nil => simpa using (h y).1 List.mem_cons_self
    | cons z fs =>
      obtain ⟨hy, hes⟩ := List.pairwise_cons.1 he
      obtain ⟨hz, hfs⟩ := List.pairwise_cons.1 hf
      have hyz : y = z := by
        obtain hm | hm := List.mem_cons.1 ((h y).1 List.mem_cons_self)
        · exact hm
        · obtain hm' | hm' := List.mem_cons.1 ((h z).2 List.mem_cons_self)
          · exact hm'.symm
          · exact absurd (String.lt_trans (hz y hm) (hy z hm')) (String.lt_irrefl _)
      subst hyz
      have hne : y ∉ es := fun hm => absurd (hy y hm) (String.lt_irrefl _)
      have hnf : y ∉ fs := fun hm => absurd (hz y hm) (String.lt_irrefl _)
      refine congrArg _ (ih hes hfs fun x => ?_)
      have hx := h x
      by_cases hxy : x = y
      · simp [hxy, hne, hnf]
      · simpa [hxy] using hx

theorem ext_get? (h : ∀ k, d.get? k = e.get? k) : d = e :=
  ext (eq_of_sorted d.sorted e.sorted fun x => by
    rw [← get?_eq_some_iff (k := x.1) (v := x.2), ← get?_eq_some_iff (k := x.1) (v := x.2), h])

theorem insert_insert {w : ν} : (d.insert k v).insert k w = d.insert k w := by
  apply ext_get?
  intro k'
  rw [get?_insert, get?_insert, get?_insert]
  split <;> rfl

theorem erase_insert_self : (d.insert k v).erase k = d.erase k := by
  apply ext_get?
  intro k'
  rw [get?_erase, get?_erase, get?_insert]
  split <;> rfl

theorem erase_insert (h : d.contains k = false) : (d.insert k v).erase k = d := by
  apply ext_get?
  intro k'
  rw [get?_erase]
  split
  · rename_i he
    rw [he]
    exact (Option.not_isSome_iff_eq_none.1 (by simpa [contains] using h)).symm
  · rename_i hne
    rw [get?_insert, if_neg hne]

def KeyedBy (key : ν → String) (d : Dict ν) : Prop := ∀ k v, d.get? k = some v → key v = k

variable {key : ν → String}

theorem KeyedBy.insert (h : d.KeyedBy key) (hv : key v = k) : (d.insert k v).KeyedBy key := by
  intro k' v' hk
  rw [get?_insert] at hk
  split at hk
  · rename_i he
    rw [← Option.some.inj hk, hv, he]
  · exact h k' v' hk

theorem KeyedBy.erase (h : d.KeyedBy key) : (d.erase k).KeyedBy key := by
  intro k' v' hk
  rw [get?_erase] at hk
  split at hk
  · cases hk
  · exact h k' v' hk

theorem KeyedBy.mem_values_iff (h : d.KeyedBy key) : v ∈ d.values ↔ d.get? (key v) = some v := by
  refine Dict.mem_values_iff.trans ⟨?_, fun hv => ⟨key v, hv⟩⟩
  rintro ⟨k, hk⟩
  rwa [h k v hk]

theorem KeyedBy.sorted_values (h : d.KeyedBy key) : d.values.Pairwise (key · < key ·) := by
  have hkey : ∀ e ∈ d.entries, key e.2 = e.1 := fun e he => h e.1 e.2 (get?_eq_some_iff.2 he)
  rw [values, List.pairwise_map]
  exact d.sorted.imp_of_mem fun ha hb hab => by rwa [hkey _ ha, hkey _ hb]

theorem get?_foldl_insert (es : List (String × ν)) (d : Dict ν) (h : (es.map (·.1)).Nodup) :
    (es.foldl (fun d e => d.insert e.1 e.2) d).get? k = (es.lookup k).or (d.get? k) := by
  induction es generalizing d with
  | nil => simp
  | cons x es ih =>
    obtain ⟨hn, hs⟩ := List.nodup_cons.1 h
    rw [List.foldl_cons, ih _ hs, get?_insert, lookup_cons]
    by_cases hk : k = x.1
    · have hl : es.lookup k = none := List.lookup_eq_none_iff.2 fun p hp => by
        have hne : k ≠ p.1 := fun hkp =>
          hn (List.mem_map.2 ⟨p, hp, hkp.symm.trans hk⟩)
        simpa using hne
      simp [hk, hk ▸ hl]
    · simp [hk]

theorem get?_ofList {es : List (String × ν)} (h : (es.map (·.1)).Nodup) :
    (ofList es).get? k = es.lookup k := by
  rw [ofList, get?_foldl_insert es _ h]
  simp

def total (d : Dict Nat) : Nat := d.values.foldr (· + ·) 0

theorem lookup_eq_none_of_lt {es : List (String × ν)} (h : ∀ x ∈ es, k < x.1) :
    es.lookup k = none :=
  List.lookup_eq_none_iff.2 fun x hx => by
    have hne : k ≠ x.1 := fun he => absurd (he ▸ h x hx) (String.lt_irrefl _)
    simpa using hne

theorem foldr_put {n : Nat} {es : List (String × Nat)} (h : es.Pairwise (fun a b => a.1 < b.1)) :
    ((put k n es).map (·.2)).foldr (· + ·) 0 + (es.lookup k).getD 0 =
      (es.map (·.2)).foldr (· + ·) 0 + n := by
  induction es with
  | nil => simp [put]
  | cons x es ih =>
    obtain ⟨hx, hs⟩ := List.pairwise_cons.1 h
    simp only [put]
    split
    · rename_i hk
      have hn : (x :: es).lookup k = none := by
        apply lookup_eq_none_of_lt
        intro y hy
        obtain rfl | hy := List.mem_cons.1 hy
        · exact hk
        · exact String.lt_trans hk (hx y hy)
      simp only [hn, List.map_cons, List.foldr_cons, Option.getD_none]
      omega
    · split
      · rename_i hk
        simp only [lookup_cons, if_pos hk, List.map_cons, List.foldr_cons, Option.getD_some]
        omega
      · rename_i hk
        have ih := ih hs
        simp only [lookup_cons, if_neg hk, List.map_cons, List.foldr_cons]
        omega

theorem total_insert {d : Dict Nat} {n : Nat} :
    (d.insert k n).total + (d.get? k).getD 0 = d.total + n :=
  foldr_put d.sorted

theorem foldr_filter_ne {es : List (String × Nat)} (h : es.Pairwise (fun a b => a.1 < b.1)) :
    ((es.filter fun e => decide (e.1 ≠ k)).map (·.2)).foldr (· + ·) 0 + (es.lookup k).getD 0 =
      (es.map (·.2)).foldr (· + ·) 0 := by
  induction es with
  | nil => simp
  | cons x es ih =>
    obtain ⟨hx, hs⟩ := List.pairwise_cons.1 h
    have ih := ih hs
    by_cases hk : k = x.1
    · have hn : es.lookup k = none := lookup_eq_none_of_lt (hk ▸ hx)
      subst hk
      simp only [hn, ne_eq, Option.getD_none] at ih
      simp only [List.filter_cons, lookup_cons, if_true, ne_eq, not_true_eq_false,
        decide_false, Bool.false_eq_true, if_false, Option.getD_some, List.map_cons, List.foldr_cons]
      omega
    · have hk' : x.1 ≠ k := fun hx => hk hx.symm
      simp only [List.filter_cons, lookup_cons, if_neg hk, ne_eq, hk', not_false_eq_true,
        decide_true, if_true, List.map_cons, List.foldr_cons] at ih ⊢
      omega

theorem total_erase {d : Dict Nat} : (d.erase k).total + (d.get? k).getD 0 = d.total :=
  foldr_filter_ne d.sorted

end ContainerFleet.Dict
