import ContainerFleet.Fleet.Status
import ContainerFleet.Proofs.Account
import ContainerFleet.Proofs.DefinitionCheck

namespace ContainerFleet

/-- No other template of its cloud has its name and another cap. -/
def Target.Plain (f : Fleet) (t : Target) : Prop :=
  ∀ u ∈ f.targets, u.cloud.name = t.cloud.name → u.template.name = t.template.name →
    u.template.instanceCap = t.template.instanceCap

/-- The fleet of a definition that is accepted has no two clouds of one name, and its templates are plain. -/
theorem Settings.plain_fleet (s : Settings) (owner : FleetId) {d : Definition} (h : d.check = .ok ()) :
    ((s.fleet owner d).clouds.map (·.name)).Nodup ∧
      ∀ t ∈ (s.fleet owner d).targets, t.Plain (s.fleet owner d) := by
  obtain ⟨hclouds, htemplates⟩ := Definition.nodup_build h
  refine ⟨hclouds, fun t ht u hu hcloud htemplate => ?_⟩
  obtain ⟨htc, htt⟩ := Fleet.mem_targets.1 ht
  obtain ⟨huc, hut⟩ := Fleet.mem_targets.1 hu
  have hc : u.cloud = t.cloud := List.inj_on_of_nodup_map hclouds huc htc hcloud
  have ht : u.template = t.template :=
    List.inj_on_of_nodup_map (htemplates _ htc) (hc ▸ hut) htt htemplate
  rw [ht]

namespace Fleet

variable {f : Fleet} {c d : Cloud} {t : Target}

structure Capped (f : Fleet) (ofCloud : Cloud → Nat) (ofTarget : Target → Nat) : Prop where
  cloud : ∀ c ∈ f.clouds, ∀ cap, c.containerCap = some cap → ofCloud c ≤ cap
  template : ∀ t ∈ f.targets, t.Plain f → ∀ cap, t.template.instanceCap = some cap → ofTarget t ≤ cap

def disowns (f : Fleet) (labels : Dict String) : Bool := f.clouds.all (!f.owns · labels)

theorem lt_of_exceeded? {running : List Summary} {onCloud ofTemplate : Nat}
    (h : Planning.exceeded? f t running onCloud ofTemplate = none) :
    (∀ cap, t.cloud.containerCap = some cap → running.length + onCloud < cap) ∧
      ∀ cap, t.template.instanceCap = some cap →
        running.countP (f.ownsFor t ·.labels) + ofTemplate < cap := by
  unfold Planning.exceeded? at h
  simp only [admits_template] at h
  split at h
  · cases h
  · cases h
  · rename_i hcloud htemplate
    rw [Option.filter_eq_none_iff] at hcloud htemplate
    exact ⟨fun cap hcap => by simpa using hcloud cap hcap,
      fun cap hcap => by simpa using htemplate cap hcap⟩

/-- A cap on what a cloud creates and what runs with certain labels at its endpoint. -/
def cloudAccount (c : Cloud) (cap : Nat) (counts : Dict String → Bool) : Account :=
  { cloud := c
    cap
    serves := fun t => t.cloud.name.text = c.name.text
    counts
    reading := fun onCloud _ => onCloud }

theorem serves_cloudAccount {cap : Nat} {counts : Dict String → Bool} :
    (cloudAccount c cap counts).serves t = true ↔ t.cloud.name.text = c.name.text := by
  simp [cloudAccount]

theorem cloudAccount_sound (hf : (f.clouds.map (·.name)).Nodup) (hc : c ∈ f.clouds) {cap : Nat}
    (hcap : c.containerCap = some cap) {counts : Dict String → Bool}
    {may : String → Dict String → Bool}
    (hforeign : ∀ o : Order, o.target ∈ f.targets → o.cloud.name.text ≠ c.name.text →
      o.cloud.endpoint.uri = c.endpoint.uri → counts (o.labels f.owner) = false)
    (hothers : ∀ labels, may c.endpoint.uri labels = true → counts labels = false) :
    (cloudAccount c cap counts).Sound f may := by
  constructor
  · intro t ht hs
    exact cloud_eq hf (mem_targets.1 ht).1 hc (serves_cloudAccount.1 hs)
  · intro o ho hs hu
    exact hforeign o ho (fun hn => by simp [serves_cloudAccount.2 hn] at hs) hu
  · intro n ts t hn hs
    exact (hn.ofCloud _).trans (by simp [cloudAccount, serves_cloudAccount.1 hs])
  · intro t running n k ht hs hroom
    have htc : t.cloud = c := cloud_eq hf (mem_targets.1 ht).1 hc (serves_cloudAccount.1 hs)
    have hlt := (lt_of_exceeded? hroom).1 cap (htc ▸ hcap)
    have hle : running.countP (counts ·.labels) ≤ running.length := List.countP_le_length
    simp only [cloudAccount]
    omega
  · exact hothers

def templateAccount (f : Fleet) (t : Target) (cap : Nat) : Account :=
  { cloud := t.cloud
    cap
    serves := fun u =>
      u.cloud.name.text = t.cloud.name.text ∧ u.template.name.text = t.template.name.text
    counts := f.ownsFor t
    reading := fun _ ofTemplate => ofTemplate }

theorem serves_templateAccount {cap : Nat} {u : Target} :
    (f.templateAccount t cap).serves u = true ↔
      u.cloud.name.text = t.cloud.name.text ∧ u.template.name.text = t.template.name.text := by
  simp [templateAccount]

theorem templateAccount_sound (hf : (f.clouds.map (·.name)).Nodup) (ht : t ∈ f.targets)
    (hp : t.Plain f) {cap : Nat} (hcap : t.template.instanceCap = some cap) :
    (f.templateAccount t cap).Sound f fun _ => f.disowns := by
  have hc := (mem_targets.1 ht).1
  constructor
  · intro u hu hs
    exact cloud_eq hf (mem_targets.1 hu).1 hc (serves_templateAccount.1 hs).1
  · intro o _ hs _
    exact (o.ownsFor_labels t).trans hs
  · intro n ts u hn hs
    obtain ⟨h1, h2⟩ := serves_templateAccount.1 hs
    exact (hn.ofTemplate _ _).trans (by simp [templateAccount, h1, h2])
  · intro u running n k hu hs hroom
    obtain ⟨h1, h2⟩ := serves_templateAccount.1 hs
    have hcu := hp u hu (name_eq_iff.2 h1) (name_eq_iff.2 h2)
    have hlt := (lt_of_exceeded? hroom).2 cap (hcu.trans hcap)
    have hown : f.ownsFor u = f.ownsFor t := by
      funext labels
      simp [ownsFor, owns, h1, h2]
    rw [hown] at hlt
    simp only [templateAccount]
    omega
  · intro labels h
    have hno : f.owns t.cloud labels = false := by simpa using List.all_eq_true.1 h t.cloud hc
    simp [templateAccount, ownsFor, hno]

end Fleet

namespace Scene

variable {f : Fleet} {may : String → Dict String → Bool} {s s' : Scene}

structure Fresh (s : Scene) : Prop where
  strands : s.strands = []
  capacity : s.state.capacity = .empty
  locked : s.state.locked = .empty

/-- The running containers at an endpoint, with certain labels, that no creation under way holds. -/
def settled (s : Scene) (uri : String) (p : Dict String → Bool) : List String :=
  ((s.sites uri).running p).filter (· ∉ s.ledger.held uri)

theorem Fresh.orderly (h : s.Fresh) : s.ledger.Orderly f := by
  have hr : s.ledger.roles = [] := by rw [ledger, h.strands, List.map_nil]
  refine ⟨fun r hm => ?_, ?_, fun n => ?_⟩
  · rw [hr] at hm
    cases hm
  · have hc : s.ledger.capacity = .empty := h.capacity
    rw [Ledger.targets, hr, hc]
    exact Capacity.counts_empty
  · rw [hr]
    exact Nat.zero_le _

/-- An account that is kept at the start is kept in every run. -/
theorem play_kept {a : Account} (ha : a.Sound f may) {moves : List Move} (h₀ : s.Fresh)
    (hcap : ((s.sites a.cloud.endpoint.uri).running a.counts).length ≤ a.cap)
    (h : s.play f may moves = some s') : s'.ledger.Orderly f ∧ a.Kept s'.ledger := by
  refine play_induction (P := fun l => l.Orderly f ∧ a.Kept l) ?_ ?_ ⟨h₀.orderly, ?_⟩ h
  · intro l l' hl hs
    exact ⟨hl.1.step hs, hl.2.step ha hl.1 hs⟩
  · intro x hx
    rw [h₀.strands] at hx
    cases hx
  · exact Account.kept_start (by rw [ledger, h₀.strands, List.map_nil]) hcap

/-- Whatever activities there are and in whatever order they go on, no cap is exceeded by what is being
created and what runs. -/
theorem play_capped (hf : (f.clouds.map (·.name)).Nodup) {moves : List Move} (h₀ : s.Fresh)
    (hcap : f.Capped (fun c => ((s.sites c.endpoint.uri).running (f.owns c)).length)
      fun t => ((s.sites t.cloud.endpoint.uri).running (f.ownsFor t)).length)
    (h : s.play f (fun _ => f.disowns) moves = some s') :
    f.Capped
      (fun c => s'.state.capacity.inProgress c.name.text none +
        (s'.settled c.endpoint.uri (f.owns c)).length)
      (fun t => s'.state.capacity.inProgress t.cloud.name.text (some t.template.name.text) +
        (s'.settled t.cloud.endpoint.uri (f.ownsFor t)).length) ∧
    f.Capped (fun c => ((s'.sites c.endpoint.uri).running (f.owns c)).length)
      fun t => ((s'.sites t.cloud.endpoint.uri).running (f.ownsFor t)).length := by
  have hcloud : ∀ c ∈ f.clouds, ∀ cap, c.containerCap = some cap →
      (Fleet.cloudAccount c cap (f.owns c)).Sound f fun _ => f.disowns := by
    intro c hc cap hcap
    refine Fleet.cloudAccount_sound hf hc hcap (fun o _ hn _ => ?_) fun labels hl => ?_
    · simpa [Order.owns_labels] using hn
    · simpa using List.all_eq_true.1 hl c hc
  refine ⟨⟨fun c hc cap hcc => ?_, fun t ht hp cap hct => ?_⟩, fun c hc cap hcc => ?_,
    fun t ht hp cap hct => ?_⟩
  · obtain ⟨ho, hk⟩ := play_kept (hcloud c hc cap hcc) h₀ (hcap.cloud c hc cap hcc) h
    have hres : s'.state.capacity.inProgress c.name.text none =
        (Fleet.cloudAccount c cap (f.owns c)).reserved s'.ledger := ho.counts.ofCloud _
    rw [hres]
    exact hk.within
  · have ha := Fleet.templateAccount_sound hf ht hp hct
    obtain ⟨ho, hk⟩ := play_kept ha h₀ (hcap.template t ht hp cap hct) h
    have hres : s'.state.capacity.inProgress t.cloud.name.text (some t.template.name.text) =
        (f.templateAccount t cap).reserved s'.ledger := ho.counts.ofTemplate _ _
    rw [hres]
    exact hk.within
  · obtain ⟨ho, hk⟩ := play_kept (hcloud c hc cap hcc) h₀ (hcap.cloud c hc cap hcc) h
    exact Nat.le_trans (Account.running_le_load (hcloud c hc cap hcc) ho) hk.within
  · have ha := Fleet.templateAccount_sound hf ht hp hct
    obtain ⟨ho, hk⟩ := play_kept ha h₀ (hcap.template t ht hp cap hct) h
    exact Nat.le_trans (Account.running_le_load ha ho) hk.within

/-- With room for one container, a request for two nodes gets one. -/
theorem play_capped_one : ∃ s,
    sample.play .one (fun _ => Fleet.one.disowns)
      (.request (.sample 1) none 2 :: Move.decideOnce 0 1 ++ Move.createOnce 1 1 ++
        Move.decideOnce 0 2) = some s ∧
    Fleet.one.Capped
      (fun c => s.state.capacity.inProgress c.name.text none +
        (s.settled c.endpoint.uri (Fleet.one.owns c)).length)
      (fun t => s.state.capacity.inProgress t.cloud.name.text (some t.template.name.text) +
        (s.settled t.cloud.endpoint.uri (Fleet.one.ownsFor t)).length) ∧
    ((s.sites "tcp://h:1").running fun _ => true).length = 1 := by
  have hrun : (sample.play .one (fun _ => Fleet.one.disowns)
      (.request (.sample 1) none 2 :: Move.decideOnce 0 1 ++ Move.createOnce 1 1 ++
        Move.decideOnce 0 2)).map
      (fun s => ((s.sites "tcp://h:1").running fun _ => true).length) = some 1 := by decide
  obtain ⟨s, hs, hone⟩ := Option.map_eq_some_iff.1 hrun
  have hcap : Fleet.one.Capped
      (fun c => ((sample.sites c.endpoint.uri).running (Fleet.one.owns c)).length)
      fun t => ((sample.sites t.cloud.endpoint.uri).running (Fleet.one.ownsFor t)).length :=
    ⟨fun _ _ cap _ => Nat.zero_le cap, fun _ _ _ cap _ => Nat.zero_le cap⟩
  exact ⟨s, hs, (play_capped (by decide) ⟨rfl, rfl, rfl⟩ hcap hs).1, hone⟩

end Scene

end ContainerFleet
