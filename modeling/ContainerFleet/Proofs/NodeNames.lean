import ContainerFleet.Fleet.Creation
import ContainerFleet.Proofs.DefinitionCheck
import ContainerFleet.Proofs.IdOrder
import ContainerFleet.Proofs.NameCheck

namespace ContainerFleet

open Name (Lawful Spelled inners)

namespace Ulid

theorem toLower_digitChar_mem : ∀ d < 32, (digitChar d).toLower ∈ inners := by decide +kernel

end Ulid

theorem Id.mem_inners_of_mem_short {k : IdKind} (i : Id k) : ∀ c ∈ i.short.toList, c ∈ inners := by
  intro c hc
  rw [toList_short, Ulid.toText, String.toList_ofList] at hc
  obtain ⟨x, hx, rfl⟩ := List.mem_map.1 hc
  obtain ⟨d, hd, rfl⟩ := Ulid.mem_digits hx
  exact Ulid.toLower_digitChar_mem d hd

namespace NodeId

variable {p : String} (i : NodeId)

theorem spelled_nodeName (h : Lawful p) : Spelled (i.nodeName p).toList := by
  rw [toList_nodeName]
  exact h.1.append h.toList_ne_nil (List.forall_mem_cons.2 ⟨by decide, i.mem_inners_of_mem_short⟩)

theorem length_nodeName (p : String) : (i.nodeName p).length = p.length + 27 := by
  rw [← String.length_toList, toList_nodeName, List.length_append, List.length_cons, Id.length_short,
    String.length_toList]

theorem utf8ByteSize_nodeName (h : Lawful p) : (i.nodeName p).utf8ByteSize = p.utf8ByteSize + 27 := by
  rw [(i.spelled_nodeName h).utf8ByteSize_eq, length_nodeName, h.1.utf8ByteSize_eq]

theorem lawful_nodeName_iff (h : Lawful p) : Lawful (i.nodeName p) ↔ p.utf8ByteSize ≤ 36 := by
  rw [Lawful, length_nodeName, h.1.utf8ByteSize_eq]
  exact ⟨fun hn => by omega, fun hp => ⟨i.spelled_nodeName h, by omega, by omega⟩⟩

end NodeId

namespace Definition

variable {d : Definition} {f : Fleet} {o : Order} {t : Target}

theorem exists_declared (hf : f.clouds = d.build) (ht : t ∈ f.targets) :
    ∃ c ∈ d.clouds, ∃ u ∈ c.templates, t = ⟨c.build, u.build⟩ := by
  obtain ⟨hc, hu⟩ := Fleet.mem_targets.1 ht
  rw [hf, build] at hc
  obtain ⟨c, hc, hcloud⟩ := List.mem_map.1 hc
  rw [← hcloud, CloudDefinition.build] at hu
  obtain ⟨u, hu, htemplate⟩ := List.mem_map.1 hu
  exact ⟨c, hc, u, hu, by rw [hcloud, htemplate]⟩

theorem lawful_stem (h : d.check = .ok ()) (hf : f.clouds = d.build) (ht : t ∈ f.targets) :
    Lawful t.template.nameStem := by
  obtain ⟨c, hc, u, hu, rfl⟩ := exists_declared hf ht
  have hvalid : u.Valid := ((check_eq_ok_iff.1 h).clouds c hc).templates u hu
  exact Name.validate_eq_ok_iff.1 hvalid.nameStem

/-- Under an accepted definition the container of a node is created with the node's name as its name and its
host name. That is 27 octets longer than the stem, and it passes the check if the stem leaves room for them.
If not, it is too long. -/
theorem node_names (h : d.check = .ok ()) (hf : f.clouds = d.build) (ho : o.target ∈ f.targets) :
    (∃ spec, Creation.wait f o .creating = .call o.cloud.endpoint.uri (.create spec) ∧
      spec.name = o.nodeName ∧ spec.hostname = some o.nodeName) ∧
    o.nodeName.utf8ByteSize = o.template.nameStem.utf8ByteSize + 27 ∧
    (∀ kind, Name.validate kind o.nodeName = .ok () ↔ o.template.nameStem.utf8ByteSize ≤ 36) ∧
    ∀ kind, Name.validate kind o.nodeName = .error (.nameTooLong kind o.nodeName 63) ↔
      36 < o.template.nameStem.utf8ByteSize := by
  have hstem : Lawful o.template.nameStem := lawful_stem h hf ho
  have hsize : o.nodeName.utf8ByteSize = o.template.nameStem.utf8ByteSize + 27 :=
    o.id.utf8ByteSize_nodeName hstem
  refine ⟨⟨_, rfl, Template.createSpec_name .., Template.createSpec_hostname ..⟩, hsize, fun kind => ?_,
    fun kind => ?_⟩
  · rw [Name.validate_eq_ok_iff]
    exact o.id.lawful_nodeName_iff hstem
  · rw [Name.validate_eq_tooLong_iff, hsize]
    omega

/-- A stem may have 63 octets, and then no node of its template has a name that passes. -/
theorem node_names_longest :
    let template : TemplateDefinition :=
      { name := ⟨"t", by decide⟩, image := "alpine", nameStem := String.ofList (List.replicate 63 'p') }
    let cloud : CloudDefinition :=
      { name := ⟨"a", by decide⟩, uri := "unix:///x", templates := [template] }
    let d : Definition := { clouds := [cloud] }
    let f : Fleet :=
      { owner := ⟨.ofNat 1⟩, clouds := d.build, outageFor := .ofSecs 300, grace := .ofSecs 60 }
    ∃ t, d.check = .ok () ∧ f.targets = [t] ∧ ∀ i : NodeId,
      let o : Order := ⟨i, t⟩
      o.nodeName.utf8ByteSize = 90 ∧
      ∀ kind, Name.validate kind o.nodeName = .error (.nameTooLong kind o.nodeName 63) := by
  intro template cloud d f
  have h : d.check = .ok () := by decide +kernel
  have hsize : template.build.nameStem.utf8ByteSize = 63 := by decide +kernel
  let t : Target := ⟨cloud.build, template.build⟩
  refine ⟨t, h, rfl, fun i => ?_⟩
  have ht : t ∈ f.targets := List.mem_cons_self
  obtain ⟨-, hname, -, hlong⟩ := node_names (f := f) (o := ⟨i, t⟩) h rfl ht
  exact ⟨hname.trans (congrArg (· + 27) hsize), fun kind => (hlong kind).2 (hsize ▸ by decide)⟩

end Definition

end ContainerFleet
