import ContainerFleet.Proofs.Capacity
import ContainerFleet.Proofs.Ledger

namespace ContainerFleet

namespace Role

def target? : Role → Option Target
  | .creating o _ _ => some o.target
  | _ => none

def holds? (uri : String) : Role → Option String
  | .creating o held _ => if o.cloud.endpoint.uri = uri then held else none
  | _ => none

def decides (cloud : String) : Role → Bool
  | .deciding t _ _ _ => t.cloud.name.text = cloud
  | _ => false

variable {uri cloud : String} {t : Target} {onCloud ofTemplate : Nat} {ls : List (List Summary)}
  {o : Order} {held : Option String} {told : List String}

@[simp] theorem target?_idle : idle.target? = none := rfl

@[simp] theorem target?_deciding : (deciding t onCloud ofTemplate ls).target? = none := rfl

@[simp] theorem target?_creating : (creating o held told).target? = some o.target := rfl

@[simp] theorem holds?_idle : idle.holds? uri = none := rfl

@[simp] theorem holds?_deciding : (deciding t onCloud ofTemplate ls).holds? uri = none := rfl

@[simp] theorem holds?_creating :
    (creating o held told).holds? uri = if o.cloud.endpoint.uri = uri then held else none := rfl

@[simp] theorem decides_idle : idle.decides cloud = false := rfl

@[simp] theorem decides_deciding :
    (deciding t onCloud ofTemplate ls).decides cloud = decide (t.cloud.name.text = cloud) := rfl

@[simp] theorem decides_creating : (creating o held told).decides cloud = false := rfl

end Role

/-- The container has an id that was given out, and if it is there it has the labels of the order. -/
def Order.Made (o : Order) (f : Fleet) (sites : String → Memory) (id : String) : Prop :=
  ∃ n, id = Memory.idOf n ∧ n ≤ (sites o.cloud.endpoint.uri).issued ∧
    ∀ c, (sites o.cloud.endpoint.uri).get? id = some c → c.labels = o.labels f.owner

theorem Order.Made.update {o : Order} {f : Fleet} {sites : String → Memory} {id uri : String}
    {m : Memory} {starts : String → Prop} {makes : Dict String → Prop} (h : o.Made f sites id)
    (hf : (sites uri).Follows m starts makes) : o.Made f (Function.update sites uri m) id := by
  obtain ⟨n, rfl, hn, hl⟩ := h
  by_cases hu : o.cloud.endpoint.uri = uri
  · subst hu
    refine ⟨n, rfl, ?_, ?_⟩
    · rw [Function.update_self]
      exact Nat.le_trans hn hf.issued
    · rw [Function.update_self]
      intro c' hc'
      obtain ⟨c, hc, hlab, _⟩ | ⟨n', hid, hlt, _⟩ := hf.each _ c' hc'
      · rw [hlab, hl c hc]
      · obtain rfl := Memory.idOf_injective hid
        omega
  · exact ⟨n, rfl, by rwa [Function.update_of_ne hu], by rwa [Function.update_of_ne hu]⟩

def Role.Sound (f : Fleet) (sites : String → Memory) : Role → Prop
  | .idle => True
  | .deciding t _ _ _ => t ∈ f.targets
  | .creating o held told =>
    o.target ∈ f.targets ∧ ∀ id, held = some id ∨ id ∈ told → o.Made f sites id

theorem Role.Sound.update {r : Role} {f : Fleet} {sites : String → Memory} {uri : String}
    {m : Memory} {starts : String → Prop} {makes : Dict String → Prop} (h : r.Sound f sites)
    (hf : (sites uri).Follows m starts makes) : r.Sound f (Function.update sites uri m) := by
  cases r with
  | idle => trivial
  | deciding t onCloud ofTemplate ls => exact h
  | creating o held told => exact ⟨h.1, fun id hid => (h.2 id hid).update hf⟩

namespace Ledger

variable {f : Fleet} {may : String → Dict String → Bool} {l l' : Ledger}

def targets (l : Ledger) : List Target := l.roles.filterMap (·.target?)

def held (l : Ledger) (uri : String) : List String := l.roles.filterMap (·.holds? uri)

/-- The counts tell what is being created, and no two activities decide on one cloud. -/
structure Orderly (f : Fleet) (l : Ledger) : Prop where
  roles : ∀ r ∈ l.roles, r.Sound f l.sites
  counts : l.capacity.Counts l.targets
  single : ∀ n, l.roles.countP (·.decides n) ≤ if l.locked.contains n then 1 else 0

section Roles

variable {pre post : List Role} {r r' : Role}

theorem targets_split (h : l.roles = pre ++ r :: post) :
    l.targets = pre.filterMap (·.target?) ++ (r.target?.toList ++ post.filterMap (·.target?)) := by
  rw [targets, h, List.filterMap_append, List.filterMap_cons]
  cases r.target? <;> rfl

theorem held_split (h : l.roles = pre ++ r :: post) (uri : String) :
    l.held uri =
      pre.filterMap (·.holds? uri) ++ ((r.holds? uri).toList ++ post.filterMap (·.holds? uri)) := by
  rw [held, h, List.filterMap_append, List.filterMap_cons]
  cases r.holds? uri <;> rfl

end Roles

namespace Orderly

theorem setSite {uri : String} {m : Memory} {starts : String → Prop} {makes : Dict String → Prop}
    (h : l.Orderly f) (hf : (l.sites uri).Follows m starts makes) :
    Orderly f { l with sites := Function.update l.sites uri m } :=
  ⟨fun r hr => (h.roles r hr).update hf, h.counts, h.single⟩

section Roles

variable {pre post : List Role} {r r' : Role} {t : Target} {onCloud ofTemplate : Nat}
  {ls : List (List Summary)} {n : String}

theorem replace {capacity : Capacity} {locked : Dict Unit} (h : l.Orderly f)
    (hr : l.roles = pre ++ r :: post) (hs : r'.Sound f l.sites)
    (hcounts : capacity.Counts
      (pre.filterMap (·.target?) ++ (r'.target?.toList ++ post.filterMap (·.target?))))
    (hlocks : ∀ n, pre.countP (·.decides n) + post.countP (·.decides n) +
      (if r'.decides n then 1 else 0) ≤ if locked.contains n then 1 else 0) :
    Orderly f { l with capacity, locked, roles := pre ++ r' :: post } := by
  refine ⟨fun x hx => ?_, ?_, fun n => ?_⟩
  · obtain hx | hx := List.mem_append.1 hx
    · exact h.roles x (by simp [hr, hx])
    · obtain rfl | hx := List.mem_cons.1 hx
      · exact hs
      · exact h.roles x (by simp [hr, hx])
  · rwa [targets_split rfl]
  · have hn := hlocks n
    simp only [List.countP_append, List.countP_cons]
    omega

theorem append {capacity : Capacity} (h : l.Orderly f) (hd : ∀ n, r.decides n = false)
    (hs : r.Sound f l.sites) (hcounts : capacity.Counts (l.targets ++ r.target?.toList)) :
    Orderly f { l with capacity, roles := l.roles ++ [r] } := by
  refine ⟨fun x hx => ?_, ?_, fun n => ?_⟩
  · obtain hx | hx := List.mem_append.1 hx
    · exact h.roles x hx
    · rwa [List.mem_singleton.1 hx]
  · rw [targets, List.filterMap_append, List.filterMap_cons]
    cases hr : r.target? <;> simpa [hr, targets] using hcounts
  · simpa [List.countP_append, hd n] using h.single n

theorem sound_of_split (h : l.Orderly f) (hr : l.roles = pre ++ r :: post) : r.Sound f l.sites :=
  h.roles r (by simp [hr])

theorem counts_of_split (h : l.Orderly f) (hr : l.roles = pre ++ r :: post) :
    l.capacity.Counts
      (pre.filterMap (·.target?) ++ (r.target?.toList ++ post.filterMap (·.target?))) :=
  targets_split hr ▸ h.counts

theorem single_of_split (h : l.Orderly f) (hr : l.roles = pre ++ r :: post) (n : String) :
    pre.countP (·.decides n) + post.countP (·.decides n) + (if r.decides n then 1 else 0) ≤
      if l.locked.contains n then 1 else 0 := by
  have hl := h.single n
  rw [hr, List.countP_append, List.countP_cons] at hl
  omega

theorem alone (h : l.Orderly f) (hr : l.roles = pre ++ .deciding t onCloud ofTemplate ls :: post) :
    pre.countP (·.decides t.cloud.name.text) + post.countP (·.decides t.cloud.name.text) = 0 := by
  have hl := h.single_of_split hr t.cloud.name.text
  simp only [Role.decides_deciding, decide_true, if_true] at hl
  split at hl <;> omega

theorem locks (h : l.Orderly f) (hr : l.roles = pre ++ .idle :: post) (ht : t ∈ f.targets)
    (hfree : l.locked.contains t.cloud.name.text = false) :
    Orderly f { l with
      locked := l.locked.insert t.cloud.name.text ()
      roles := pre ++ .deciding t onCloud ofTemplate ls :: post } := by
  have hc := h.counts_of_split hr
  refine h.replace hr ht hc fun n => ?_
  have hl := h.single_of_split hr n
  by_cases hn : n = t.cloud.name.text
  · subst hn
    rw [hfree] at hl
    simp only [Role.decides_idle, Role.decides_deciding, Dict.contains_insert, decide_true,
      Bool.true_or, Bool.false_eq_true, if_true, if_false] at hl ⊢
    omega
  · simpa [hn, Ne.symm hn] using hl

theorem unlocks (h : l.Orderly f) (hr : l.roles = pre ++ .deciding t onCloud ofTemplate ls :: post) :
    Orderly f { l with
      locked := l.locked.erase t.cloud.name.text
      roles := pre ++ .idle :: post } := by
  have hc := h.counts_of_split hr
  refine h.replace hr trivial hc fun n => ?_
  have hl := h.single_of_split hr n
  by_cases hn : n = t.cloud.name.text
  · subst hn
    simp [h.alone hr]
  · simpa [hn, Ne.symm hn] using hl

end Roles

theorem step (h : l.Orderly f) (hs : l.Step f may l') : l'.Orderly f := by
  cases hs with
  | stays => exact h
  | enters => exact h.append (fun _ => rfl) trivial (by simpa using h.counts)
  | locks hr ht hfree => exact h.locks hr ht hfree
  | lists hr =>
    have hs := h.sound_of_split hr
    have hc := h.counts_of_split hr
    have hl := h.single_of_split hr
    exact h.replace hr hs hc hl
  | unlocks hr => exact h.unlocks hr
  | reserves hr _ _ =>
    have hs := h.sound_of_split hr
    have hu := h.unlocks hr
    refine hu.append (fun _ => rfl) ⟨hs, fun id hid => ?_⟩ hu.counts.reserve
    obtain hid | hid := hid <;> cases hid
  | @calls pre post o held told told' m hr hf hmade =>
    have hs := (h.sound_of_split hr).update hf
    have hc := h.counts_of_split hr
    have hl := h.single_of_split hr
    refine (h.setSite hf).replace hr ⟨hs.1, fun id hid => ?_⟩ hc hl
    obtain hid | hid := hid
    · exact hs.2 id (.inl hid)
    · obtain hid | ⟨n, rfl, hn, c, hget, hlab⟩ := hmade id hid
      · exact hs.2 id (.inr hid)
      · refine ⟨n, rfl, ?_, ?_⟩
        · simpa using hn
        · simp only [Function.update_self, hget]
          rintro c' ⟨⟩
          exact hlab
  | proceeds hr hknown hless =>
    have hs := h.sound_of_split hr
    have hc := h.counts_of_split hr
    have hl := h.single_of_split hr
    refine h.replace hr ⟨hs.1, fun id hid => ?_⟩ hc hl
    obtain hid | hid := hid
    · obtain hid | ⟨_, hid⟩ := Option.or_eq_some_iff.1 hid
      · exact hs.2 id (.inl hid)
      · exact hs.2 id (.inr (hknown id hid))
    · exact hs.2 id (.inr (hless hid))
  | releases hr =>
    have hc := (h.counts_of_split hr).release
    have hl := h.single_of_split hr
    exact h.replace hr trivial hc hl
  | others hf _ => exact h.setSite hf

end Orderly

end Ledger

end ContainerFleet
