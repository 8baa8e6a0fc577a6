import ContainerFleet.Proofs.Caps

namespace ContainerFleet

theorem length_flatMap_le {α β : Type} {l : List α} {g : α → List β} {n : Nat}
    (h : ∀ x ∈ l, (g x).length ≤ n) : (l.flatMap g).length ≤ l.length * n := by
  induction l with
  | nil => simp
  | cons x l ih =>
    have hx := h x List.mem_cons_self
    have hl := ih fun y hy => h y (List.mem_cons_of_mem _ hy)
    rw [List.flatMap_cons, List.length_append, List.length_cons, Nat.succ_mul]
    omega

namespace Fleet

variable {f : Fleet} {c : Cloud} {uri : String}

def cloudsAt (f : Fleet) (uri : String) : List Cloud := f.clouds.filter (·.endpoint.uri = uri)

def sparesOthers (f : Fleet) (c : Cloud) (labels : Dict String) : Bool :=
  (f.cloudsAt c.endpoint.uri).all fun d => d.name.text = c.name.text || !f.owns d labels

theorem endpointAccount_sound (hf : (f.clouds.map (·.name)).Nodup) (hc : c ∈ f.clouds) {cap : Nat}
    (hcap : c.containerCap = some cap) :
    (cloudAccount c cap (f.sparesOthers c)).Sound f fun uri _ => uri ≠ c.endpoint.uri := by
  refine cloudAccount_sound hf hc hcap (fun o ho hn hu => ?_) fun labels hl => ?_
  · have hmem : o.cloud ∈ f.cloudsAt c.endpoint.uri :=
      List.mem_filter.2 ⟨(mem_targets.1 ho).1, decide_eq_true hu⟩
    apply List.all_eq_false.2
    exact ⟨o.cloud, hmem, by simp [hn, Order.owns_labels]⟩
  · simp at hl

/-- Every container counts for some cloud at its endpoint. -/
theorem exists_sparesOthers (hc : c ∈ f.cloudsAt uri) (labels : Dict String) :
    ∃ d ∈ f.cloudsAt uri, f.sparesOthers d labels = true := by
  have huri : ∀ d ∈ f.cloudsAt uri, d.endpoint.uri = uri := fun d hd =>
    of_decide_eq_true (List.mem_filter.1 hd).2
  by_cases h : ∃ d ∈ f.cloudsAt uri, f.owns d labels = true
  · obtain ⟨d, hd, ho⟩ := h
    refine ⟨d, hd, ?_⟩
    rw [sparesOthers, huri d hd]
    apply List.all_eq_true.2
    intro e he
    by_cases hoe : f.owns e labels = true
    · simp only [owns, Bool.and_eq_true, decide_eq_true_eq] at ho hoe
      simp [Option.some.inj (hoe.2.symm.trans ho.2)]
    · simp [hoe]
  · refine ⟨c, hc, ?_⟩
    rw [sparesOthers, huri c hc]
    apply List.all_eq_true.2
    intro e he
    have hno : f.owns e labels = false := by
      by_contra hne
      exact h ⟨e, he, by simpa using hne⟩
    simp [hno]

end Fleet

namespace Scene

variable {f : Fleet} {c : Cloud} {s s' : Scene}

/-- With one cap for all clouds at an endpoint, what runs there stays below the cap times the number of
these clouds. -/
theorem play_endpoint_bounded (hf : (f.clouds.map (·.name)).Nodup) (hc : c ∈ f.clouds) {n : Nat}
    (hcap : ∀ d ∈ f.clouds, d.endpoint.uri = c.endpoint.uri → d.containerCap = some n)
    {moves : List Move} (h₀ : s.Fresh)
    (hrun : ((s.sites c.endpoint.uri).running fun _ => true).length ≤ n)
    (h : s.play f (fun uri _ => uri ≠ c.endpoint.uri) moves = some s') :
    ((s'.sites c.endpoint.uri).running fun _ => true).length ≤
      (f.cloudsAt c.endpoint.uri).length * n := by
  have hkept : ∀ d ∈ f.cloudsAt c.endpoint.uri,
      ((s'.sites c.endpoint.uri).running (f.sparesOthers d)).length ≤ n := by
    intro d hd
    obtain ⟨hdf, hu⟩ := List.mem_filter.1 hd
    have hu : d.endpoint.uri = c.endpoint.uri := of_decide_eq_true hu
    have ha := Fleet.endpointAccount_sound hf hdf (hcap d hdf hu)
    rw [← hu] at hrun h ⊢
    have hd₀ : ((s.sites d.endpoint.uri).running (f.sparesOthers d)).length ≤ n :=
      Nat.le_trans (Memory.running_mono fun _ _ => rfl) hrun
    obtain ⟨ho, hk⟩ := play_kept ha h₀ hd₀ h
    exact Nat.le_trans (Account.running_le_load ha ho) hk.within
  refine Nat.le_trans (Memory.running_nodup.length_le_of_subset ?_) (length_flatMap_le hkept)
  intro id hid
  obtain ⟨x, hx, hr, _⟩ := Memory.mem_running.1 hid
  have hcu : c ∈ f.cloudsAt c.endpoint.uri := List.mem_filter.2 ⟨hc, decide_eq_true rfl⟩
  obtain ⟨d, hd, hs⟩ := Fleet.exists_sparesOthers hcu x.labels
  exact List.mem_flatMap.2 ⟨d, hd, Memory.mem_running.2 ⟨x, hx, hr, hs⟩⟩

/-- A request for two nodes, for which two clouds at one endpoint have room for one container each. -/
def bothClouds : List Move :=
  .request (.sample 1) none 2 :: Move.decideOnce 0 1 ++ Move.decideOnce 0 2 ++ Move.decideOnce 0 2 ++
    Move.createOnce 1 2 ++ Move.createOnce 2 2

theorem play_endpoint_bounded_two : ∃ s,
    sample.play .two (fun uri _ => uri ≠ "tcp://h:1") bothClouds = some s ∧
      ((s.sites "tcp://h:1").running fun _ => true).length ≤ 2 := by
  have hrun : (sample.play .two (fun uri _ => uri ≠ "tcp://h:1") bothClouds).isSome = true := by decide
  obtain ⟨s, hs⟩ := Option.isSome_iff_exists.1 hrun
  have hc : Fleet.two.clouds.head (by decide) ∈ Fleet.two.clouds := List.head_mem _
  refine ⟨s, hs, play_endpoint_bounded (n := 1) (by decide) hc (by decide) ⟨rfl, rfl, rfl⟩ ?_ hs⟩
  exact Nat.zero_le 1

/-- The cap itself does not bound what runs at an endpoint that clouds share. -/
theorem endpoint_exceeds_cap :
    (Fleet.two.clouds.map (·.name)).Nodup ∧
    (∀ d ∈ Fleet.two.clouds, d.endpoint.uri = "tcp://h:1" ∧ d.containerCap = some 1) ∧
    sample.Fresh ∧ (sample.sites "tcp://h:1").running (fun _ => true) = [] ∧
    ∃ s, sample.play .two (fun uri _ => uri ≠ "tcp://h:1") bothClouds = some s ∧
      ((s.sites "tcp://h:1").running fun _ => true).length = 2 := by
  have hrun : (sample.play .two (fun uri _ => uri ≠ "tcp://h:1") bothClouds).map
      (fun s => ((s.sites "tcp://h:1").running fun _ => true).length) = some 2 := by decide
  obtain ⟨s, hs, htwo⟩ := Option.map_eq_some_iff.1 hrun
  exact ⟨by decide, by decide, ⟨rfl, rfl, rfl⟩, rfl, s, hs, htwo⟩

end Scene

end ContainerFleet
