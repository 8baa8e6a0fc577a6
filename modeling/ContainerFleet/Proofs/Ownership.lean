import ContainerFleet.Fleet.CloudSweep
import ContainerFleet.Fleet.Planning
import ContainerFleet.Proofs.Dict
import ContainerFleet.Proofs.IdText
import Mathlib.Data.List.Nodup

namespace ContainerFleet

namespace ListFilter

theorem admits_ofList {all : Bool} {es : List (String × String)} {labels : Dict String}
    (h : (es.map (·.1)).Nodup) :
    admits { all, labels := Dict.ofList es } labels = true ↔
      ∀ e ∈ es, labels.get? e.1 = some e.2 := by
  have hm : ∀ e, e ∈ (Dict.ofList es).entries ↔ e ∈ es := fun e => by
    rw [← Dict.get?_eq_some_iff (k := e.1) (v := e.2), Dict.get?_ofList h]
    exact Dict.lookup_eq_some_iff h
  simp [admits, Dict.toList, hm]

end ListFilter

namespace Fleet

variable {f : Fleet} {c d : Cloud}

def owns (f : Fleet) (c : Cloud) (labels : Dict String) : Bool :=
  labels.get? Identity.ownerKey = some f.owner.toText &&
    labels.get? Identity.cloudKey = some c.name.text

def ownsFor (f : Fleet) (t : Target) (labels : Dict String) : Bool :=
  f.owns t.cloud labels && labels.get? Identity.templateKey = some t.template.name.text

theorem admits_cloud (c : Cloud) (labels : Dict String) :
    (CloudSweep.ownFilter f c).admits labels = f.owns c labels := by
  apply Bool.eq_iff_iff.2
  rw [CloudSweep.ownFilter, ListFilter.admits_ofList (by simp [Identity.ownerKey, Identity.cloudKey])]
  simp [owns]

theorem admits_template (t : Target) (labels : Dict String) :
    (Planning.ownFilter f t).admits labels = f.ownsFor t labels := by
  apply Bool.eq_iff_iff.2
  rw [Planning.ownFilter, ListFilter.admits_ofList
    (by simp [Identity.ownerKey, Identity.cloudKey, Identity.templateKey])]
  simp [ownsFor, owns, and_assoc]

theorem name_eq_iff {k : NameKind} {a b : Name k} : a = b ↔ a.text = b.text := by
  cases a
  cases b
  simp

theorem cloud_eq (hf : (f.clouds.map (·.name)).Nodup) (hc : c ∈ f.clouds) (hd : d ∈ f.clouds)
    (h : c.name.text = d.name.text) : c = d :=
  List.inj_on_of_nodup_map hf hc hd (name_eq_iff.2 h)

/-- No container belongs to two clouds. -/
theorem not_owns {labels : Dict String} (h : f.owns c labels = true) (hne : c.name ≠ d.name) :
    ¬ f.owns d labels = true := by
  simp only [owns, Bool.and_eq_true, decide_eq_true_eq] at h ⊢
  exact fun hd => hne (name_eq_iff.2 (Option.some.inj (h.2.symm.trans hd.2)))

theorem mem_targets {t : Target} : t ∈ f.targets ↔ t.cloud ∈ f.clouds ∧ t.template ∈ t.cloud.templates := by
  obtain ⟨c, u⟩ := t
  simp [targets]

end Fleet

theorem Connector.prepare_frame (c : Connector) (nodeName : String) (spec : CreateSpec) :
    (c.prepare nodeName spec).name = spec.name ∧
    (c.prepare nodeName spec).hostname = spec.hostname ∧
    (c.prepare nodeName spec).labels = spec.labels := by
  unfold prepare
  split
  · exact ⟨rfl, rfl, rfl⟩
  · exact ⟨rfl, rfl, rfl⟩
  · split <;> exact ⟨rfl, rfl, rfl⟩

namespace Template

variable (t : Template) (owner : FleetId) (cloud : CloudName) (nodeName : String)

theorem createSpec_name : (t.createSpec owner cloud nodeName).name = nodeName :=
  (t.connector.prepare_frame ..).1

theorem createSpec_hostname : (t.createSpec owner cloud nodeName).hostname = some nodeName :=
  (t.connector.prepare_frame ..).2.1

theorem createSpec_labels :
    (t.createSpec owner cloud nodeName).labels = (t.identity owner cloud nodeName).labels :=
  (t.connector.prepare_frame ..).2.2

end Template

theorem Identity.get?_labels (i : Identity) (k : String) :
    i.labels.get? k = [(ownerKey, i.owner.toText), (cloudKey, i.cloud.text),
      (templateKey, i.template.text), (imageKey, i.image), (nodeNameKey, i.nodeName),
      (removeVolumesKey, if i.removeVolumes then "true" else "false")].lookup k :=
  Dict.get?_ofList (by simp [ownerKey, cloudKey, templateKey, imageKey, nodeNameKey,
    removeVolumesKey])

namespace Identity

variable (i : Identity)

theorem owns_labels (f : Fleet) (c : Cloud) :
    f.owns c i.labels = true ↔ i.owner = f.owner ∧ i.cloud = c.name := by
  have howner : i.labels.get? ownerKey = some i.owner.toText := by rw [get?_labels]; rfl
  have hcloud : i.labels.get? cloudKey = some i.cloud.text := by rw [get?_labels]; rfl
  simp [Fleet.owns, howner, hcloud, Id.toText_inj, Fleet.name_eq_iff]

theorem ownsFor_labels (f : Fleet) (t : Target) : f.ownsFor t i.labels = true ↔
    i.owner = f.owner ∧ i.cloud = t.cloud.name ∧ i.template = t.template.name := by
  have htemplate : i.labels.get? templateKey = some i.template.text := by rw [get?_labels]; rfl
  simp [Fleet.ownsFor, owns_labels, htemplate, Fleet.name_eq_iff, and_assoc]

theorem removesVolumes_labels : removesVolumes i.labels = i.removeVolumes := by
  have hflag : i.labels.get? removeVolumesKey = some (if i.removeVolumes then "true" else "false") := by
    rw [get?_labels]; rfl
  rw [removesVolumes, hflag]
  cases i.removeVolumes <;> decide

end Identity

/-- The container that is created for a node is one that the fleet's own filters find: the count of
a template's containers and the sweep of a cloud, each for the same fleet, cloud and template only. -/
theorem Template.createSpec_stamps (t : Template) (owner : FleetId) (cloud : CloudName)
    (nodeName : String) :
    let spec := t.createSpec owner cloud nodeName
    (∀ f u, (Planning.ownFilter f u).admits spec.labels = true ↔
      owner = f.owner ∧ cloud = u.cloud.name ∧ t.name = u.template.name) ∧
    (∀ f c, (CloudSweep.ownFilter f c).admits spec.labels = true ↔
      owner = f.owner ∧ cloud = c.name) ∧
    spec.labels.get? Identity.nodeNameKey = some nodeName ∧
    spec.name = nodeName ∧ spec.hostname = some nodeName ∧
    Identity.removesVolumes spec.labels = t.removeVolumes := by
  intro spec
  let i := t.identity owner cloud nodeName
  have hlabels : spec.labels = i.labels := t.createSpec_labels owner cloud nodeName
  rw [hlabels]
  have counted : ∀ f u, (Planning.ownFilter f u).admits i.labels = true ↔
      owner = f.owner ∧ cloud = u.cloud.name ∧ t.name = u.template.name := fun f u => by
    rw [Fleet.admits_template]
    exact i.ownsFor_labels f u
  have swept : ∀ f c, (CloudSweep.ownFilter f c).admits i.labels = true ↔
      owner = f.owner ∧ cloud = c.name := fun f c => by
    rw [Fleet.admits_cloud]
    exact i.owns_labels f c
  have named : i.labels.get? Identity.nodeNameKey = some nodeName := by
    rw [Identity.get?_labels]
    rfl
  exact ⟨counted, swept, named, t.createSpec_name .., t.createSpec_hostname ..,
    i.removesVolumes_labels⟩

def Order.labels (o : Order) (owner : FleetId) : Dict String :=
  (o.template.createSpec owner o.cloud.name o.nodeName).labels

namespace Order

variable {f : Fleet} (o : Order)

theorem get?_ownerKey (owner : FleetId) :
    (o.labels owner).get? Identity.ownerKey = some owner.toText := by
  rw [labels, Template.createSpec_labels, Identity.get?_labels]
  rfl

theorem get?_cloudKey (owner : FleetId) :
    (o.labels owner).get? Identity.cloudKey = some o.cloud.name.text := by
  rw [labels, Template.createSpec_labels, Identity.get?_labels]
  rfl

theorem get?_templateKey (owner : FleetId) :
    (o.labels owner).get? Identity.templateKey = some o.template.name.text := by
  rw [labels, Template.createSpec_labels, Identity.get?_labels]
  rfl

theorem get?_nodeNameKey (owner : FleetId) :
    (o.labels owner).get? Identity.nodeNameKey = some o.nodeName := by
  rw [labels, Template.createSpec_labels, Identity.get?_labels]
  rfl

theorem owns_labels (c : Cloud) :
    f.owns c (o.labels f.owner) = decide (o.cloud.name.text = c.name.text) := by
  simp [Fleet.owns, get?_ownerKey, get?_cloudKey]

theorem ownsFor_labels (t : Target) :
    f.ownsFor t (o.labels f.owner) =
      decide (o.cloud.name.text = t.cloud.name.text ∧ o.template.name.text = t.template.name.text) := by
  simp [Fleet.ownsFor, owns_labels, get?_templateKey]

end Order

end ContainerFleet
