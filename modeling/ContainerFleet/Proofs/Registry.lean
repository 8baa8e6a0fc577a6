import ContainerFleet.Node.Registry
import ContainerFleet.Proofs.Dict

namespace ContainerFleet.Registry

variable {r r' : Registry} {name k : String} {n : Node} {now : Timestamp}

theorem update_ok {f : Node → Except RegistryError Node} (h : r.update name f = .ok r') :
    ∃ n n', r.get? name = some n ∧ f n = .ok n' ∧ r' = r.insert name n' := by
  unfold update at h
  split at h
  · cases h
  · rename_i n hn
    cases hf : f n with
    | error e =>
      rw [hf] at h
      cases h
    | ok n' =>
      rw [hf] at h
      exact ⟨n, n', hn, hf, (Except.ok.inj h).symm⟩

theorem setState_ok {s : NodeState} (h : r.setState name s = .ok r') :
    ∃ n, r.get? name = some n ∧ r' = r.insert name { n with state := s } := by
  obtain ⟨n, n', hn, hf, rfl⟩ := update_ok h
  refine ⟨n, hn, ?_⟩
  split at hf
  · rename_i hs
    rw [← Except.ok.inj hf, ← hs]
  · split at hf
    · rw [← Except.ok.inj hf]
    · cases hf

theorem setState_eq (h : r.get? name = some n) (s : NodeState) : r.setState name s =
    if n.state = s ∨ n.state.canBecome s = true then .ok (r.insert name { n with state := s })
    else .error (.invalidTransition name n.state s) := by
  unfold setState update
  by_cases hs : n.state = s
  · subst hs
    simp [h, Except.map]
  · by_cases hc : n.state.canBecome s = true <;> simp [h, hs, hc, Except.map]

theorem remove_eq (h : r.get? name = some n) : r.remove name = .ok (n, r.erase name) := by
  rw [remove, h]

theorem remove_ok (h : r.remove name = .ok (n, r')) : r.get? name = some n ∧ r' = r.erase name := by
  unfold remove at h
  split at h
  · cases h
  · rename_i n' hn
    obtain ⟨rfl, rfl⟩ := Prod.ext_iff.1 (Except.ok.inj h)
    exact ⟨hn, rfl⟩

theorem register_ok (h : r.register n = .ok r') :
    r.contains n.name = false ∧ r' = r.insert n.name n := by
  unfold register at h
  split at h
  · cases h
  · rename_i hc
    exact ⟨by simpa using hc, (Except.ok.inj h).symm⟩

theorem taskStarted_ok (h : r.taskStarted name = .ok r') :
    ∃ n n', r.get? name = some n ∧ r' = r.insert name n' ∧ n'.name = n.name ∧
      (n'.state = .terminating → n.state = .terminating) := by
  obtain ⟨n, n', hn, hf, rfl⟩ := update_ok h
  refine ⟨n, n', hn, rfl, ?_⟩
  rw [← Except.ok.inj hf]
  refine ⟨rfl, fun hs => ?_⟩
  simp only at hs
  split at hs
  · cases hs
  · exact hs

theorem taskFinished_ok (h : r.taskFinished name now = .ok r') :
    ∃ n n', r.get? name = some n ∧ r' = r.insert name n' ∧ n'.name = n.name ∧
      (n'.state = .terminating → n.state = .terminating) := by
  obtain ⟨n, n', hn, hf, rfl⟩ := update_ok h
  refine ⟨n, n', hn, rfl, ?_⟩
  simp only at hf
  split at hf
  · cases hf
  · rw [← Except.ok.inj hf]
    exact ⟨rfl, id⟩

abbrev Keyed (r : Registry) : Prop := Dict.KeyedBy (·.name) r

end ContainerFleet.Registry
