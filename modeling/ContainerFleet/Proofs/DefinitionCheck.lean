import ContainerFleet.Definition.Basic
import ContainerFleet.Proofs.Ownership
import ContainerFleet.Proofs.Words
import Mathlib.Data.List.Forall2

namespace ContainerFleet

/-- A scan that refuses a key that it has seen, and an item that is not as it should be, accepts just the
lists with distinct keys, none of them seen before, whose items are as they should be. -/
theorem scan_iff {α κ : Type} (scan : List κ → List α → Prop) {key : α → κ} {P : α → Prop}
    (hnil : ∀ seen, scan seen [])
    (hcons : ∀ seen x xs, scan seen (x :: xs) ↔ key x ∉ seen ∧ P x ∧ scan (key x :: seen) xs)
    {seen : List κ} {xs : List α} :
    scan seen xs ↔ (xs.map key).Nodup ∧ ∀ x ∈ xs, key x ∉ seen ∧ P x := by
  induction xs generalizing seen with
  | nil => simp [hnil]
  | cons x xs ih =>
    rw [hcons, ih, List.map_cons, List.nodup_cons, List.forall_mem_cons]
    constructor
    · rintro ⟨hx, hP, hnodup, hxs⟩
      refine ⟨⟨fun hmem => ?_, hnodup⟩, ⟨hx, hP⟩, fun y hy => ?_⟩
      · obtain ⟨y, hy, he⟩ := List.mem_map.1 hmem
        exact (hxs y hy).1 (he ▸ List.mem_cons_self)
      · exact ⟨fun hseen => (hxs y hy).1 (List.mem_cons_of_mem _ hseen), (hxs y hy).2⟩
    · rintro ⟨⟨hmem, hnodup⟩, ⟨hx, hP⟩, hxs⟩
      refine ⟨hx, hP, hnodup, fun y hy => ⟨fun hseen => ?_, (hxs y hy).2⟩⟩
      obtain he | hseen := List.mem_cons.1 hseen
      · exact hmem (he ▸ List.mem_map_of_mem hy)
      · exact (hxs y hy).1 hseen

theorem find?_key {α κ : Type} [DecidableEq κ] {key : α → κ} {xs : List α} (h : (xs.map key).Nodup)
    {x : α} (hx : x ∈ xs) : xs.find? (key · = key x) = some x := by
  cases hf : xs.find? (key · = key x) with
  | none => simpa using List.find?_eq_none.1 hf x hx
  | some y =>
    have hkey : key y = key x := of_decide_eq_true (List.find?_some (p := (key · = key x)) hf)
    rw [List.inj_on_of_nodup_map h (List.mem_of_find?_eq_some hf) hx hkey]

theorem capOf_eq_some_iff {cap : Option Nat} {n : Nat} : capOf cap = some n ↔ cap = some n ∧ 0 < n := by
  rw [capOf, Option.filter_eq_some_iff, decide_eq_true_eq]

theorem capOf_eq_none_iff {cap : Option Nat} : capOf cap = none ↔ cap = none ∨ cap = some 0 := by
  cases cap with
  | none => simp [capOf]
  | some n => simp [capOf, Nat.pos_iff_ne_zero]

namespace TemplateDefinition

variable {t : TemplateDefinition} {b : Template}

structure Valid (t : TemplateDefinition) : Prop where
  image : ∃ c ∈ t.image.toList, Text.isBlank c = false
  executors : 0 < t.executors
  nameStem : Name.validate "name prefix" t.nameStem = .ok ()

theorem check_eq_ok_iff : t.check = .ok () ↔ t.Valid := by
  have himage : (Text.trim t.image).isEmpty = true ↔ ¬ ∃ c ∈ t.image.toList, Text.isBlank c = false := by
    rw [Text.isEmpty_trim_iff]
    simp
  have hstem : (Name.validate "name prefix" t.nameStem).mapError (DefinitionError.badStem t.name) = .ok () ↔
      Name.validate "name prefix" t.nameStem = .ok () := by
    cases Name.validate "name prefix" t.nameStem <;> simp [Except.mapError]
  rw [check]
  split_ifs with hi he
  · exact iff_of_false (by simp) fun hv => himage.1 hi hv.image
  · exact iff_of_false (by simp) fun hv => absurd he (Nat.ne_of_gt hv.executors)
  · rw [hstem]
    constructor
    · intro h
      exact ⟨not_not.1 fun hn => hi (himage.2 hn), Nat.pos_of_ne_zero he, h⟩
    · exact Valid.nameStem

/-- The template says what its declaration says. -/
structure Says (t : TemplateDefinition) (b : Template) : Prop where
  name : b.name = t.name
  image : b.image = t.image
  labels : ∀ w, b.labels.contains w = true ↔ Text.IsWord w t.labels
  uncapped : b.instanceCap = none ↔ t.instanceCap = none ∨ t.instanceCap = some 0
  capped : ∀ n, b.instanceCap = some n ↔ t.instanceCap = some n ∧ 0 < n
  executors : b.executors = t.executors
  mode : b.mode = t.mode
  connector : b.connector = t.connector
  removeVolumes : b.removeVolumes = t.removeVolumes
  stopTimeout : b.stopTimeout = .ofSecs t.stopTimeout
  nameStem : b.nameStem = t.nameStem
  cmd : b.cmd = t.cmd
  env : b.env = t.env
  retention : b.retention = t.retention
  disabled : b.disabled = t.disabled

theorem says_build (t : TemplateDefinition) : t.Says t.build where
  name := rfl
  image := rfl
  labels _ := LabelSet.contains_ofText
  uncapped := capOf_eq_none_iff
  capped _ := capOf_eq_some_iff
  executors := rfl
  mode := rfl
  connector := rfl
  removeVolumes := rfl
  stopTimeout := rfl
  nameStem := rfl
  cmd := rfl
  env := rfl
  retention := rfl
  disabled := rfl

end TemplateDefinition

namespace CloudDefinition

variable {c : CloudDefinition} {t : TemplateDefinition} {name : String}

structure Valid (c : CloudDefinition) : Prop where
  uri : ∃ e, Endpoint.parse c.uri = .ok e
  distinct : (c.templates.map (·.name)).Nodup
  templates : ∀ t ∈ c.templates, t.Valid

theorem checkTemplates_eq_ok_iff {cloud : CloudName} {ts : List TemplateDefinition} :
    checkTemplates cloud [] ts = .ok () ↔ (ts.map (·.name)).Nodup ∧ ∀ t ∈ ts, t.Valid := by
  have hcons : ∀ seen t ts, checkTemplates cloud seen (t :: ts) = .ok () ↔
      t.name ∉ seen ∧ t.Valid ∧ checkTemplates cloud (t.name :: seen) ts = .ok () := by
    intro seen t ts
    rw [checkTemplates, ← TemplateDefinition.check_eq_ok_iff]
    by_cases hs : t.name ∈ seen
    · simp [hs]
    · cases t.check <;> simp [hs]
  rw [scan_iff (fun seen ts => checkTemplates cloud seen ts = .ok ()) (fun _ => rfl) hcons]
  simp

theorem check_eq_ok_iff : c.check = .ok () ↔ c.Valid := by
  rw [check]
  cases h : Endpoint.parse c.uri with
  | error e => exact iff_of_false (by simp) fun hv => by simpa [h] using hv.uri
  | ok e =>
    rw [checkTemplates_eq_ok_iff]
    exact ⟨fun hv => ⟨⟨e, h⟩, hv.1, hv.2⟩, fun hv => ⟨hv.distinct, hv.templates⟩⟩

/-- The cloud says what its declaration says, and it has the declared templates and no others. -/
structure Says (c : CloudDefinition) (b : Cloud) : Prop where
  name : b.name = c.name
  uri : b.endpoint.uri = c.uri
  credentialsId : b.endpoint.credentialsId = c.credentialsId
  connectTimeout : b.endpoint.connectTimeout = .ofSecs c.connectTimeout
  readTimeout : b.endpoint.readTimeout = .ofSecs c.readTimeout
  uncapped : b.containerCap = none ↔ c.containerCap = none ∨ c.containerCap = some 0
  capped : ∀ n, b.containerCap = some n ↔ c.containerCap = some n ∧ 0 < n
  disabled : b.disabled = c.disabled
  templates : List.Forall₂ TemplateDefinition.Says c.templates b.templates
  declared : ∀ t ∈ c.templates, b.template? t.name.text = some t.build
  undeclared : ∀ name, (∀ t ∈ c.templates, t.name.text ≠ name) → b.template? name = none

theorem template?_build (h : (c.templates.map (·.name)).Nodup) (ht : t ∈ c.templates) :
    c.build.template? t.name.text = some t.build := by
  have hnames : (c.build.templates.map (·.name.text)).Nodup := by
    have htexts : c.build.templates.map (·.name.text) = (c.templates.map (·.name)).map Name.text := by
      rw [build, List.map_map, List.map_map]
      rfl
    rw [htexts]
    exact h.map fun _ _ he => Fleet.name_eq_iff.2 he
  exact find?_key hnames (List.mem_map_of_mem ht)

theorem template?_build_eq_none (h : ∀ t ∈ c.templates, t.name.text ≠ name) :
    c.build.template? name = none := by
  refine List.find?_eq_none.2 fun b hb => ?_
  obtain ⟨t, ht, rfl⟩ := List.mem_map.1 hb
  have hne : t.build.name.text ≠ name := h t ht
  simpa using hne

theorem says_build (h : c.Valid) : c.Says c.build where
  name := rfl
  uri := rfl
  credentialsId := rfl
  connectTimeout := rfl
  readTimeout := rfl
  uncapped := capOf_eq_none_iff
  capped _ := capOf_eq_some_iff
  disabled := rfl
  templates := List.forall₂_map_right_iff.2 (List.forall₂_same.2 fun t _ => t.says_build)
  declared _ ht := template?_build h.distinct ht
  undeclared _ hn := template?_build_eq_none hn

end CloudDefinition

namespace Definition

variable {d : Definition}

structure Valid (d : Definition) : Prop where
  distinct : (d.clouds.map (·.name)).Nodup
  clouds : ∀ c ∈ d.clouds, c.Valid

theorem check_eq_ok_iff : d.check = .ok () ↔ d.Valid := by
  have hcons : ∀ seen c cs, checkClouds seen (c :: cs) = .ok () ↔
      c.name ∉ seen ∧ c.Valid ∧ checkClouds (c.name :: seen) cs = .ok () := by
    intro seen c cs
    rw [checkClouds, ← CloudDefinition.check_eq_ok_iff]
    by_cases hs : c.name ∈ seen
    · simp [hs]
    · cases c.check <;> simp [hs]
  rw [check, scan_iff (fun seen cs => checkClouds seen cs = .ok ()) (fun _ => rfl) hcons]
  simp only [List.not_mem_nil, not_false_iff, true_and]
  exact ⟨fun h => ⟨h.1, h.2⟩, fun h => ⟨h.distinct, h.clouds⟩⟩

/-- The clouds of an accepted fleet, and the templates of each, can be told apart by their names. -/
theorem nodup_build (h : d.check = .ok ()) : (d.build.map (·.name)).Nodup ∧
    ∀ c ∈ d.build, (c.templates.map (·.name)).Nodup := by
  have hv : d.Valid := check_eq_ok_iff.1 h
  constructor
  · rw [build, List.map_map]
    exact hv.distinct
  · intro b hb
    obtain ⟨c, hc, rfl⟩ := List.mem_map.1 hb
    rw [CloudDefinition.build, List.map_map]
    exact (hv.clouds c hc).distinct

/-- Just the valid definitions are accepted, and what is built from them says what they say, in the same
order. -/
theorem accepted_iff (d : Definition) : (d.check = .ok () ↔ d.Valid) ∧
    (d.check = .ok () → List.Forall₂ CloudDefinition.Says d.clouds d.build) := by
  refine ⟨check_eq_ok_iff, fun h => ?_⟩
  have hv : d.Valid := check_eq_ok_iff.1 h
  exact List.forall₂_map_right_iff.2
    (List.forall₂_same.2 fun c hc => CloudDefinition.says_build (hv.clouds c hc))

/-- Two templates; the second has labels, and its cap is zero. -/
theorem accepted_iff_large :
    let large : TemplateDefinition :=
      { name := ⟨"large", by decide⟩, image := "alpine:3", labels := " linux  gpu ", instanceCap := some 0 }
    let cloud : CloudDefinition :=
      { name := ⟨"local", by decide⟩, uri := "unix:///run/docker.sock", containerCap := some 4
        templates := [{ name := ⟨"small", by decide⟩, image := "alpine" }, large] }
    let d : Definition := { clouds := [cloud] }
    d.check = .ok () ∧ d.Valid ∧ ∃ b, d.build = [b] ∧ b.containerCap = some 4 ∧
      b.template? "large" = some large.build ∧ b.template? "huge" = none := by
  intro large cloud d
  have h : d.check = .ok () := by decide +kernel
  have hsays : List.Forall₂ CloudDefinition.Says [cloud] [cloud.build] := (accepted_iff d).2 h
  obtain ⟨hcloud, -⟩ := List.forall₂_cons.1 hsays
  exact ⟨h, (accepted_iff d).1.1 h, cloud.build, rfl, (hcloud.capped 4).2 (by decide),
    hcloud.declared large (by decide), hcloud.undeclared "huge" (by decide)⟩

end Definition

end ContainerFleet
