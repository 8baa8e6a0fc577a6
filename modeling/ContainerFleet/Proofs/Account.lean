import ContainerFleet.Proofs.Orderly

namespace ContainerFleet

structure Account where
  cloud : Cloud
  cap : Nat
  serves : Target → Bool
  counts : Dict String → Bool
  /-- Which of the two counts that a decision reads is the one that matters. -/
  reading : Nat → Nat → Nat

namespace Account

/-- The decisions of the fleet respect the account, and others create and start nothing that counts. -/
structure Sound (f : Fleet) (may : String → Dict String → Bool) (a : Account) : Prop where
  place : ∀ t ∈ f.targets, a.serves t = true → t.cloud = a.cloud
  foreign : ∀ o : Order, o.target ∈ f.targets → a.serves o.target = false →
    o.cloud.endpoint.uri = a.cloud.endpoint.uri → a.counts (o.labels f.owner) = false
  reads : ∀ c ts t, Capacity.Counts c ts → a.serves t = true →
    a.reading (c.inProgress t.cloud.name.text none)
      (c.inProgress t.cloud.name.text (some t.template.name.text)) = ts.countP a.serves
  room : ∀ t running onCloud ofTemplate, t ∈ f.targets → a.serves t = true →
    Planning.exceeded? f t running onCloud ofTemplate = none →
    a.reading onCloud ofTemplate + running.countP (a.counts ·.labels) < a.cap
  others : ∀ labels, may a.cloud.endpoint.uri labels = true → a.counts labels = false

variable {a : Account} {l l' : Ledger} {f : Fleet} {may : String → Dict String → Bool}

def reserved (a : Account) (l : Ledger) : Nat := l.targets.countP a.serves

/-- The containers that count and run, and that no creation holds. -/
def loose (a : Account) (l : Ledger) : List String :=
  ((l.sites a.cloud.endpoint.uri).running a.counts).filter (· ∉ l.held a.cloud.endpoint.uri)

def load (a : Account) (l : Ledger) : Nat := a.reserved l + (a.loose l).length

/-- The cap holds, and whoever decides has not read too little. -/
structure Kept (a : Account) (l : Ledger) : Prop where
  within : a.load l ≤ a.cap
  deciding : ∀ t onCloud ofTemplate ls, .deciding t onCloud ofTemplate ls ∈ l.roles →
    a.serves t = true → a.reserved l ≤ a.reading onCloud ofTemplate ∧
      ∀ running ∈ ls, a.load l ≤
        a.reading onCloud ofTemplate + running.countP (a.counts ·.labels)

theorem mem_loose {id : String} : id ∈ a.loose l ↔
    id ∈ (l.sites a.cloud.endpoint.uri).running a.counts ∧ id ∉ l.held a.cloud.endpoint.uri := by
  simp [loose]

theorem loose_nodup : (a.loose l).Nodup := Memory.running_nodup.sublist List.filter_sublist

theorem Kept.of_le (h : a.Kept l) (hr : a.reserved l' ≤ a.reserved l)
    (hl : a.load l' ≤ a.load l)
    (hd : ∀ t onCloud ofTemplate ls, .deciding t onCloud ofTemplate ls ∈ l'.roles →
      .deciding t onCloud ofTemplate ls ∈ l.roles) : a.Kept l' := by
  refine ⟨Nat.le_trans hl h.within, fun t n k ls ht hs => ?_⟩
  obtain ⟨h1, h2⟩ := h.deciding t n k ls (hd t n k ls ht) hs
  exact ⟨Nat.le_trans hr h1, fun x hx => Nat.le_trans hl (h2 x hx)⟩

theorem loose_le (h : ∀ id ∈ a.loose l', id ∈ a.loose l) :
    (a.loose l').length ≤ (a.loose l).length := loose_nodup.length_le_of_subset h

theorem load_le {l l' : Ledger} (hr : a.reserved l' = a.reserved l)
    (hl : (a.loose l').length ≤ (a.loose l).length) : a.load l' ≤ a.load l := by
  rw [load, load, hr]
  exact Nat.add_le_add_left hl _

theorem Kept.setSite {uri : String} {m : Memory} {starts : String → Prop}
    {makes : Dict String → Prop} (h : a.Kept l) (hf : (l.sites uri).Follows m starts makes)
    (hs : uri = a.cloud.endpoint.uri → ∀ id, starts id → id ∈ l.held uri ∨
      ∀ c, (l.sites uri).get? id = some c → a.counts c.labels = false) :
    a.Kept { l with sites := Function.update l.sites uri m } := by
  refine h.of_le (Nat.le_refl _) (load_le rfl (loose_le fun id hid => ?_)) fun _ _ _ _ hm => hm
  obtain ⟨hrun, hnot⟩ := mem_loose.1 hid
  refine mem_loose.2 ⟨?_, hnot⟩
  by_cases hu : a.cloud.endpoint.uri = uri
  · subst hu
    simp only [Function.update_self] at hrun
    obtain hrun | ⟨hst, c, hc, hcount⟩ := hf.running hrun
    · exact hrun
    · obtain hin | hno := hs rfl id hst
      · exact absurd hin hnot
      · rw [hno c hc] at hcount
        cases hcount
  · simpa only [Function.update_of_ne hu] using hrun

section Roles

variable {pre post : List Role} {r r' : Role} {t : Target} {o : Order} {onCloud ofTemplate : Nat}
  {ls : List (List Summary)} {held : Option String} {told : List String}

theorem reserved_split (h : l.roles = pre ++ r :: post) :
    a.reserved l = (pre.filterMap (·.target?)).countP a.serves +
      ((r.target?.toList).countP a.serves + (post.filterMap (·.target?)).countP a.serves) := by
  rw [reserved, Ledger.targets_split h, List.countP_append, List.countP_append]

theorem Kept.replace (h : a.Kept l) (hr : l.roles = pre ++ r :: post) (hsites : l'.sites = l.sites)
    (hr' : l'.roles = pre ++ r' :: post) (ht : r'.target? = r.target?)
    (hh : ∀ id, r.holds? a.cloud.endpoint.uri = some id → r'.holds? a.cloud.endpoint.uri = some id)
    (hd : ∀ n, r'.decides n = false) : a.Kept l' := by
  have hres : a.reserved l' = a.reserved l := by rw [reserved_split hr, reserved_split hr', ht]
  refine h.of_le (Nat.le_of_eq hres) (load_le hres (loose_le fun id hid => ?_)) fun t n k ls hm => ?_
  · rw [mem_loose, hsites] at hid
    refine mem_loose.2 ⟨hid.1, fun hin => hid.2 ?_⟩
    rw [Ledger.held_split hr] at hin
    rw [Ledger.held_split hr']
    simp only [List.mem_append, Option.mem_toList] at hin ⊢
    obtain hin | hin | hin := hin
    · exact .inl hin
    · exact .inr (.inl (hh id hin))
    · exact .inr (.inr hin)
  · rw [hr'] at hm
    rw [hr]
    simp only [List.mem_append, List.mem_cons] at hm ⊢
    obtain hm | hm | hm := hm
    · exact .inl hm
    · have hn := hd t.cloud.name.text
      simp [← hm] at hn
    · exact .inr (.inr hm)

theorem Kept.locks (h : a.Kept l) (ha : a.Sound f may) (ho : l.Orderly f)
    (hr : l.roles = pre ++ .idle :: post) (hsites : l'.sites = l.sites)
    (hr' : l'.roles = pre ++ .deciding t (l.capacity.inProgress t.cloud.name.text none)
      (l.capacity.inProgress t.cloud.name.text (some t.template.name.text)) [] :: post) :
    a.Kept l' := by
  have hres : a.reserved l' = a.reserved l := by
    rw [reserved_split hr, reserved_split hr', Role.target?_idle, Role.target?_deciding]
  have hheld : l'.held a.cloud.endpoint.uri = l.held a.cloud.endpoint.uri := by
    rw [Ledger.held_split hr, Ledger.held_split hr', Role.holds?_idle, Role.holds?_deciding]
  have hload : a.load l' = a.load l := by rw [load, load, loose, loose, hres, hsites, hheld]
  refine ⟨hload ▸ h.within, fun t' n k ls hm hsv => ?_⟩
  rw [hload, hres]
  rw [hr'] at hm
  simp only [List.mem_append, List.mem_cons, Role.deciding.injEq] at hm
  obtain hm | ⟨rfl, rfl, rfl, rfl⟩ | hm := hm
  · exact h.deciding t' n k ls (by simp [hr, hm]) hsv
  · refine ⟨Nat.le_of_eq (ha.reads _ _ _ ho.counts hsv).symm, fun running hrunning => ?_⟩
    cases hrunning
  · exact h.deciding t' n k ls (by simp [hr, hm]) hsv

theorem Kept.lists (h : a.Kept l) (ha : a.Sound f may) (ho : l.Orderly f)
    (hr : l.roles = pre ++ .deciding t onCloud ofTemplate ls :: post) (hsites : l'.sites = l.sites)
    (hr' : l'.roles = pre ++ .deciding t onCloud ofTemplate
      (((l.sites t.cloud.endpoint.uri).listed {}).map (·.summary) :: ls) :: post) :
    a.Kept l' := by
  have hres : a.reserved l' = a.reserved l := by
    rw [reserved_split hr, reserved_split hr', Role.target?_deciding, Role.target?_deciding]
  have hheld : l'.held a.cloud.endpoint.uri = l.held a.cloud.endpoint.uri := by
    rw [Ledger.held_split hr, Ledger.held_split hr', Role.holds?_deciding, Role.holds?_deciding]
  have hload : a.load l' = a.load l := by rw [load, load, loose, loose, hres, hsites, hheld]
  refine ⟨hload ▸ h.within, fun t' n k ls' hm hsv => ?_⟩
  rw [hload, hres]
  rw [hr'] at hm
  simp only [List.mem_append, List.mem_cons, Role.deciding.injEq] at hm
  obtain hm | ⟨rfl, rfl, rfl, rfl⟩ | hm := hm
  · exact h.deciding t' n k ls' (by simp [hr, hm]) hsv
  · obtain ⟨h1, h2⟩ := h.deciding t' n k ls (by simp [hr]) hsv
    refine ⟨h1, fun running hrun => ?_⟩
    obtain rfl | hrun := List.mem_cons.1 hrun
    · rw [ha.place t' (ho.sound_of_split hr) hsv, Memory.countP_listed]
      exact Nat.add_le_add h1 (List.length_filter_le _ _)
    · exact h2 running hrun
  · exact h.deciding t' n k ls' (by simp [hr, hm]) hsv

/-- A reservation is made only where there is room, and while nobody else decides. -/
theorem Kept.reserves (h : a.Kept l) (ha : a.Sound f may) (ho : l.Orderly f)
    {running : List Summary} (hr : l.roles = pre ++ .deciding o.target onCloud ofTemplate ls :: post)
    (hlisted : running ∈ ls) (hroom : Planning.exceeded? f o.target running onCloud ofTemplate = none)
    (hsites : l'.sites = l.sites)
    (hr' : l'.roles = pre ++ .idle :: (post ++ [.creating o none []])) : a.Kept l' := by
  have hres : a.reserved l' = a.reserved l + if a.serves o.target then 1 else 0 := by
    rw [reserved_split hr, reserved_split hr', List.filterMap_append, List.countP_append]
    simp only [Role.target?_idle, Role.target?_deciding, Option.toList_none, List.countP_nil,
      List.filterMap_cons, List.filterMap_nil, Role.target?_creating, List.countP_singleton]
    omega
  have hheld : l'.held a.cloud.endpoint.uri = l.held a.cloud.endpoint.uri := by
    rw [Ledger.held_split hr, Ledger.held_split hr', List.filterMap_append]
    simp
  have hloose : a.loose l' = a.loose l := by rw [loose, loose, hsites, hheld]
  have hmem : ∀ t n k ls', .deciding t n k ls' ∈ l'.roles → .deciding t n k ls' ∈ pre ++ post := by
    intro t n k ls' hm
    rw [hr'] at hm
    simpa using hm
  cases hsv : a.serves o.target with
  | false =>
    rw [hsv] at hres
    refine h.of_le (Nat.le_of_eq hres) (load_le hres (Nat.le_of_eq (by rw [hloose]))) ?_
    intro t n k ls' hm
    have hm := hmem t n k ls' hm
    rw [hr]
    simp only [List.mem_append, List.mem_cons] at hm ⊢
    exact hm.imp_right .inr
  | true =>
    obtain ⟨_, h2⟩ := h.deciding o.target onCloud ofTemplate ls (by simp [hr]) hsv
    have hsound := ho.sound_of_split hr
    have hlt := ha.room o.target running onCloud ofTemplate hsound hsv hroom
    constructor
    · have hle := h2 running hlisted
      rw [load] at hle ⊢
      rw [hres, hloose, hsv, if_pos rfl]
      omega
    · intro t n k ls' hm hsv'
      have ht : t ∈ f.targets := by
        refine ho.roles (.deciding t n k ls') ?_
        have hm := hmem t n k ls' hm
        rw [hr]
        simp only [List.mem_append, List.mem_cons] at hm ⊢
        exact hm.imp_right .inr
      have hcloud : t.cloud = o.target.cloud :=
        (ha.place t ht hsv').trans (ha.place o.target hsound hsv).symm
      have hpos : 0 < (pre ++ post).countP (·.decides o.target.cloud.name.text) :=
        List.countP_pos_iff.2 ⟨_, hmem t n k ls' hm, by simp [hcloud]⟩
      rw [List.countP_append, ho.alone hr] at hpos
      exact absurd hpos (Nat.lt_irrefl 0)

theorem Kept.releases (h : a.Kept l) (ha : a.Sound f may) (ho : l.Orderly f)
    (hr : l.roles = pre ++ .creating o held told :: post) (hsites : l'.sites = l.sites)
    (hr' : l'.roles = pre ++ .idle :: post) : a.Kept l' := by
  have hs := ho.sound_of_split hr
  have hres : a.reserved l = a.reserved l' + if a.serves o.target then 1 else 0 := by
    rw [reserved_split hr, reserved_split hr', Role.target?_creating, Role.target?_idle]
    simp only [Option.toList_some, Option.toList_none, List.countP_nil, List.countP_singleton]
    omega
  have hmem : ∀ id ∈ a.loose l', id ∈ a.loose l ∨
      Role.holds? a.cloud.endpoint.uri (.creating o held told) = some id ∧
        id ∈ (l.sites a.cloud.endpoint.uri).running a.counts := by
    intro id hid
    rw [mem_loose, hsites] at hid
    obtain ⟨hrun, hnot⟩ := hid
    by_cases hin : id ∈ l.held a.cloud.endpoint.uri
    · rw [Ledger.held_split hr] at hin
      rw [Ledger.held_split hr'] at hnot
      simp only [List.mem_append, Option.mem_toList, Role.holds?_idle, reduceCtorEq, false_or,
        not_or] at hin hnot
      obtain hin | hin | hin := hin
      · exact absurd hin hnot.1
      · exact .inr ⟨hin, hrun⟩
      · exact absurd hin hnot.2
    · exact .inl (mem_loose.2 ⟨hrun, hin⟩)
  have hload : a.load l' ≤ a.load l := by
    rw [load, load, hres]
    cases hsv : a.serves o.target with
    | false =>
      -- A container of another target does not count.
      have hle : (a.loose l').length ≤ (a.loose l).length := by
        refine loose_le fun id hid => ?_
        obtain hid | ⟨hheld, hrun⟩ := hmem id hid
        · exact hid
        · rw [Role.holds?_creating] at hheld
          split at hheld
          · rename_i hu
            obtain ⟨n, _, _, hlab⟩ := hs.2 id (.inl hheld)
            obtain ⟨c, hc, _, hcount⟩ := Memory.mem_running.1 hrun
            rw [hlab c (hu ▸ hc), ha.foreign o hs.1 hsv hu] at hcount
            cases hcount
          · cases hheld
      simpa using hle
    | true =>
      have hle : (a.loose l').length ≤ (a.loose l).length + 1 := by
        cases hh : Role.holds? a.cloud.endpoint.uri (.creating o held told) with
        | none =>
          refine Nat.le_succ_of_le (loose_le fun id hid => ?_)
          obtain hid | ⟨hheld, _⟩ := hmem id hid
          · exact hid
          · rw [hh] at hheld
            cases hheld
        | some x =>
          have hsub : a.loose l' ⊆ x :: a.loose l := by
            intro id hid
            obtain hid | ⟨hheld, _⟩ := hmem id hid
            · exact List.mem_cons_of_mem _ hid
            · rw [hh] at hheld
              exact Option.some.inj hheld ▸ List.mem_cons_self
          exact loose_nodup.length_le_of_subset hsub
      simp only [if_true]
      omega
  refine h.of_le (by omega) hload fun t n k ls hm => ?_
  rw [hr'] at hm
  rw [hr]
  simpa using hm

end Roles

theorem Kept.step (h : a.Kept l) (ha : a.Sound f may) (ho : l.Orderly f) (hs : l.Step f may l') :
    a.Kept l' := by
  cases hs with
  | stays => exact h
  | enters =>
    have hres : a.reserved { l with roles := l.roles ++ [.idle] } = a.reserved l := by
      simp [reserved, Ledger.targets]
    refine h.of_le (Nat.le_of_eq hres) (load_le hres ?_) fun t n k ls hm => by simpa using hm
    simp [loose, Ledger.held]
  | locks hr _ _ => exact h.locks ha ho hr rfl rfl
  | lists hr => exact h.lists ha ho hr rfl rfl
  | unlocks hr =>
    refine h.replace hr rfl rfl rfl (fun id hid => ?_) fun _ => rfl
    cases hid
  | reserves hr hlisted hroom =>
    exact h.reserves ha ho hr hlisted hroom rfl (by rw [List.append_assoc, List.cons_append])
  | @calls pre post o held told told' m hr hf hmade =>
    refine (h.setSite hf fun hu id hid => .inl ?_).replace hr rfl rfl rfl (fun _ hid => hid) fun _ => rfl
    rw [Ledger.held_split hr]
    simp [hid]
  | proceeds hr hknown hless =>
    refine h.replace hr rfl rfl rfl (fun id hid => ?_) fun _ => rfl
    rw [Role.holds?_creating] at hid ⊢
    split at hid
    · rw [if_pos ‹_›, hid, Option.some_or]
    · cases hid
  | releases hr => exact h.releases ha ho hr rfl rfl
  | others hf hst =>
    exact h.setSite hf fun hu id hid => .inr fun c hc => ha.others _ (hu ▸ hst id c hid hc)

def heldFor (a : Account) (roles : List Role) : List String :=
  roles.filterMap fun r =>
    if r.target?.any a.serves then r.holds? a.cloud.endpoint.uri else none

theorem length_heldFor (roles : List Role) :
    (a.heldFor roles).length ≤ (roles.filterMap (·.target?)).countP a.serves := by
  induction roles with
  | nil => exact Nat.le_refl 0
  | cons r roles ih =>
    cases r with
    | creating o held told =>
      simp only [heldFor, List.filterMap_cons, Role.target?_creating, Option.any_some,
        List.countP_cons] at ih ⊢
      by_cases hs : a.serves o.target = true
      · simp only [hs, if_true]
        split
        · exact Nat.le_succ_of_le ih
        · exact Nat.succ_le_succ ih
      · simpa [hs] using ih
    | idle => exact ih
    | deciding t onCloud ofTemplate ls => exact ih

/-- What runs is settled or stands behind a creation under way. -/
theorem running_le_load (ha : a.Sound f may) (ho : l.Orderly f) :
    ((l.sites a.cloud.endpoint.uri).running a.counts).length ≤ a.load l := by
  have hsub : (l.sites a.cloud.endpoint.uri).running a.counts ⊆ a.heldFor l.roles ++ a.loose l := by
    intro id hid
    by_cases hin : id ∈ l.held a.cloud.endpoint.uri
    · obtain ⟨r, hr, hheld⟩ := List.mem_filterMap.1 hin
      refine List.mem_append_left _ (List.mem_filterMap.2 ⟨r, hr, ?_⟩)
      have hs := ho.roles r hr
      cases r with
      | creating o held told =>
        rw [Role.holds?_creating] at hheld
        split at hheld
        · rename_i hu
          obtain ⟨n, _, _, hlab⟩ := hs.2 id (.inl hheld)
          obtain ⟨c, hc, _, hcount⟩ := Memory.mem_running.1 hid
          rw [hlab c (hu ▸ hc)] at hcount
          have hsv : a.serves o.target = true := by
            cases hsv : a.serves o.target with
            | true => rfl
            | false =>
              rw [ha.foreign o hs.1 hsv hu] at hcount
              cases hcount
          simp [hsv, hu, hheld]
        · cases hheld
      | idle => cases hheld
      | deciding t onCloud ofTemplate ls => cases hheld
    · exact List.mem_append_right _ (mem_loose.2 ⟨hid, hin⟩)
  have hle := Memory.running_nodup.length_le_of_subset hsub
  rw [List.length_append] at hle
  exact Nat.le_trans hle (Nat.add_le_add_right (length_heldFor _) _)

theorem kept_start (hr : l.roles = [])
    (h : ((l.sites a.cloud.endpoint.uri).running a.counts).length ≤ a.cap) : a.Kept l := by
  constructor
  · have hl : (a.loose l).length ≤ ((l.sites a.cloud.endpoint.uri).running a.counts).length :=
      List.length_filter_le _ _
    rw [load, reserved, Ledger.targets, hr]
    simpa using Nat.le_trans hl h
  · intro t n k ls hm
    rw [hr] at hm
    cases hm

end Account

end ContainerFleet
