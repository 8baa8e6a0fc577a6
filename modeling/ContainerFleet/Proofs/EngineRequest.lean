import ContainerFleet.Engine.Request
import ContainerFleet.Proofs.Dict
import ContainerFleet.Proofs.FormText
import ContainerFleet.Proofs.JsonText

namespace ContainerFleet

def Text.pair (s : String) : String × String :=
  (String.ofList (cutAt '=' s.toList).1, String.ofList (cutAt '=' s.toList).2)

theorem Text.pair_append {k : String} (h : '=' ∉ k.toList) (v : String) : pair (k ++ "=" ++ v) = (k, v) := by
  have hcut : cutAt '=' (k ++ "=" ++ v).toList = (k.toList, v.toList) := by
    rw [String.append_assoc, String.toList_append, String.toList_append]
    exact cutAt_append h v.toList
  rw [pair, hcut, String.ofList_toList, String.ofList_toList]

namespace Dict

variable {ν : Type} {d : Dict ν}

theorem ofList_toList (d : Dict ν) : ofList d.toList = d :=
  ext_get? fun _ => get?_ofList d.keys_nodup

def assignments (d : Dict String) : List String := d.toList.map fun e => e.1 ++ "=" ++ e.2

def Assignable (d : Dict String) : Prop := ∀ k ∈ d.keys, '=' ∉ k.toList

instance (d : Dict String) : Decidable d.Assignable :=
  inferInstanceAs (Decidable (∀ k ∈ d.keys, '=' ∉ k.toList))

theorem pair_assignments {d : Dict String} (h : d.Assignable) : d.assignments.map Text.pair = d.toList := by
  have hpair : ∀ e ∈ d.toList, (Text.pair ∘ fun e => e.1 ++ "=" ++ e.2) e = id e := fun e he =>
    Text.pair_append (h e.1 (List.mem_map_of_mem he)) e.2
  rw [assignments, List.map_map, List.map_congr_left hpair, List.map_id]

theorem ofList_pair_assignments {d : Dict String} (h : d.Assignable) :
    ofList (d.assignments.map Text.pair) = d := by
  rw [pair_assignments h, ofList_toList]

end Dict

namespace Data

theorem legible_ofTexts (ss : List String) : (ofTexts ss).Legible := by
  refine .list fun d hd => ?_
  obtain ⟨s, _, rfl⟩ := List.mem_map.1 hd
  exact .text s

theorem legible_ofDict (d : Dict String) : (ofDict d).Legible := by
  refine .table fun f hf => ?_
  obtain ⟨e, _, rfl⟩ := List.mem_map.1 hf
  exact .text e.2

theorem list?_ofTexts (ss : List String) : (ofTexts ss).list? text? = some ss := by
  rw [ofTexts, list?, mapM_map_of_reads]
  exact fun s => rfl

theorem dict?_ofDict (d : Dict String) : (ofDict d).dict? text? = some d := by
  rw [ofDict, dict?, mapM_map_of_reads, Option.map_some, Dict.ofList_toList]
  exact fun e => rfl

end Data

namespace Json

theorem ofBytes?_encode (cs : List Char) : ofBytes? (Text.Utf8.encode cs) = parse? cs := by
  have h := Text.Utf8.decodeFrom_encode cs []
  rw [List.append_nil, Text.Utf8.decodeFrom, List.append_nil] at h
  rw [ofBytes?, h, List.flatMap_map]
  exact congrArg parse? (List.flatMap_singleton' cs)

end Json

namespace Engine

variable {c : Char} {f g : ListFilter} {s t : CreateSpec}

def Request.query (r : Request) : String := String.ofList (Text.cutAt '?' r.target.toList).2

theorem cutAt_withQuery {path : String} (h : '?' ∉ path.toList) (query : String) :
    Text.cutAt '?' (withQuery path query).toList = (path.toList, query.toList) := by
  rw [withQuery]
  split_ifs with hq
  · rw [Text.cutAt_of_not_mem h, String.isEmpty_iff.1 hq]
    rfl
  · rw [String.append_assoc, String.toList_append, String.toList_append]
    exact Text.cutAt_append h query.toList

theorem target_list (f : ListFilter) :
    (Request.ofCall (.list f)).target = withQuery "/containers/json" (Form.ofFields (listFields f)) := by
  rw [Request.ofCall]

theorem query_list (f : ListFilter) : (Request.ofCall (.list f)).query = Form.ofFields (listFields f) := by
  rw [Request.query, target_list, cutAt_withQuery (by decide), String.ofList_toList]

def labelsOf? (filters : String) : Option (List String) :=
  (Json.ofText? filters).bind fun d => (d.get? "label").bind (Data.list? Data.text?)

/-- What a query asks a listing for: whether stopped containers are in it, and the labels, as texts with
`=` between key and value. -/
def readListing? (query : String) : Option (Bool × List String) :=
  let fields := Form.fields query
  let all := decide (fields.lookup "all" = some "true")
  match fields.lookup "filters" with
  | none => some (all, [])
  | some filters => (labelsOf? filters).map (all, ·)

def filterOf? (query : String) : Option ListFilter :=
  (readListing? query).map fun (all, labels) => { all, labels := .ofList (labels.map Text.pair) }

def filtersText (labels : Dict String) : String :=
  Json.toText (.table [("label", .ofTexts labels.assignments)])

theorem listFields_eq (f : ListFilter) : listFields f =
    (if f.all then [("all", "true")] else []) ++
      if f.labels.isEmpty then [] else [("filters", filtersText f.labels)] := rfl

theorem ofText?_filtersText (labels : Dict String) : Json.ofText? (filtersText labels) =
    some (.table [("label", .ofTexts labels.assignments)]) := by
  refine Json.ofText?_toText_of_legible (.table fun x hx => ?_)
  obtain rfl := List.mem_singleton.1 hx
  exact Data.legible_ofTexts _

theorem labelsOf?_filtersText (labels : Dict String) :
    labelsOf? (filtersText labels) = some labels.assignments := by
  rw [labelsOf?, ofText?_filtersText]
  exact Data.list?_ofTexts _

theorem assignments_of_isEmpty {d : Dict String} (h : d.isEmpty = true) : d.assignments = [] := by
  rw [Dict.assignments, Dict.toList, List.isEmpty_iff.1 h, List.map_nil]

theorem readListing?_query (f : ListFilter) :
    readListing? (Request.ofCall (.list f)).query = some (f.all, f.labels.assignments) := by
  rw [query_list, readListing?, Form.fields_ofFields, listFields_eq]
  by_cases hl : f.labels.isEmpty = true
  · rw [if_pos hl, List.append_nil, assignments_of_isEmpty hl]
    cases f.all <;> rfl
  · rw [if_neg hl]
    have hall : decide (((if f.all then [("all", "true")] else []) ++
        [("filters", filtersText f.labels)]).lookup "all" = some "true") = f.all := by
      cases f.all <;> rfl
    have hfilters : ((if f.all then [("all", "true")] else []) ++
        [("filters", filtersText f.labels)]).lookup "filters" = some (filtersText f.labels) := by
      cases f.all <;> rfl
    simp only [hall, hfilters, labelsOf?_filtersText, Option.map_some]

theorem filterOf?_query (h : f.labels.Assignable) :
    filterOf? (Request.ofCall (.list f)).query = some f := by
  rw [filterOf?, readListing?_query]
  simp only [Option.map_some, Dict.ofList_pair_assignments h]

theorem query_list_eq_empty_iff : (Request.ofCall (.list f)).query = "" ↔ f = {} := by
  constructor
  · intro h
    have hfields := Form.fields_ofFields (listFields f)
    have hempty : Form.fields "" = [] := Form.fields_ofFields []
    rw [← query_list, h, hempty, listFields_eq] at hfields
    obtain ⟨all, labels⟩ := f
    obtain ⟨hall, hlabels⟩ := List.append_eq_nil_iff.1 hfields.symm
    have hd : labels = .empty := Dict.ext (List.isEmpty_iff.1 (by simpa [Dict.isEmpty] using hlabels))
    have ha : all = false := by simpa using hall
    rw [ha, hd]
  · rintro rfl
    decide

theorem plain_of_isWritten (h : Form.isWritten c = true) : isPathCharacter c = true ∧
    isQueryCharacter c = true ∧ Percent.isOutsidePath c = false ∧ c.toNat < 128 := by
  have hrange := Form.range_of_isWritten h
  have houtside : ∀ cs : List Char, cs.all (!Form.isWritten ·) = true → cs.contains c = false := by
    intro cs hcs
    refine Bool.eq_false_iff.2 fun hc => ?_
    have hnot := List.all_eq_true.1 hcs c (List.contains_iff_mem.1 hc)
    rw [h] at hnot
    cases hnot
  refine ⟨?_, ?_, ?_, by omega⟩
  · rw [isPathCharacter, houtside _ (by decide)]
    simp [hrange]
  · rw [isQueryCharacter, houtside _ (by decide)]
    simp [hrange]
  · rw [Percent.isOutsidePath, houtside _ (by decide), Percent.isControl]
    simp
    omega

theorem isWritten_of_mem_query (h : c ∈ (Request.ofCall (.list f)).query.toList) :
    Form.isWritten c = true := by
  rw [query_list] at h
  exact Form.isWritten_of_mem_ofFields h

theorem canSend_list (f : ListFilter) : (Request.ofCall (.list f)).canSend = true := by
  let query := Form.ofFields (listFields f)
  have hquery : ∀ c ∈ query.toList, isQueryCharacter c = true ∧ decide (c ≠ '#') = true := by
    intro c hc
    have hwritten : Form.isWritten c = true := Form.isWritten_of_mem_ofFields hc
    refine ⟨(plain_of_isWritten hwritten).2.1, decide_eq_true ?_⟩
    rintro rfl
    cases hwritten
  have hpath : ("/containers/json" ++ "?").toList.all (fun c => decide (c ≠ '#')) = true := by decide
  have hall : ∀ c ∈ (withQuery "/containers/json" query).toList, decide (c ≠ '#') = true := by
    intro c hc
    rw [withQuery] at hc
    split_ifs at hc with hq
    · exact List.all_eq_true.1 hpath c (by rw [String.toList_append]; exact List.mem_append_left _ hc)
    · rw [String.toList_append, List.mem_append] at hc
      obtain hc | hc := hc
      · exact List.all_eq_true.1 hpath c hc
      · exact (hquery c hc).2
  have hsent : (Request.ofCall (.list f)).sentTarget = withQuery "/containers/json" query := by
    rw [Request.sentTarget, target_list, List.takeWhile_eq_self_iff.2 hall, String.ofList_toList]
  have hcut : Text.cutAt '?' (withQuery "/containers/json" query).toList =
      ("/containers/json".toList, query.toList) := cutAt_withQuery (by decide) query
  rw [Text.cutAt, Prod.mk.injEq] at hcut
  simp only [Request.canSend, hsent, hcut]
  rw [List.all_eq_true.2 fun c hc => (hquery c hc).1]
  decide

/-- What a listing asks for is read back from its query, so that different filters make different queries.
The query stands in an address as it is, and it is empty for the filter that asks for nothing. -/
theorem listing_reads_back (h : f.labels.Assignable) :
    let query := (Request.ofCall (.list f)).query
    (Request.ofCall (.list f)).target = withQuery "/containers/json" query ∧
    Form.fields query = (if f.all then [("all", "true")] else []) ++
      (if f.labels.isEmpty then [] else [("filters", filtersText f.labels)]) ∧
    Json.ofText? (filtersText f.labels) = some (.table [("label", .ofTexts f.labels.assignments)]) ∧
    f.labels.assignments.map Text.pair = f.labels.toList ∧
    f.labels.toList.Pairwise (fun a b => a.1 < b.1) ∧
    filterOf? query = some f ∧
    (∀ g : ListFilter, g.labels.Assignable → (Request.ofCall (.list g)).query = query → g = f) ∧
    (∀ c ∈ query.toList, isPathCharacter c = true ∧ isQueryCharacter c = true ∧
      Percent.isOutsidePath c = false ∧ c.toNat < 128) ∧
    (Request.ofCall (.list f)).canSend = true ∧
    (query = "" ↔ f = {}) := by
  intro query
  have hquery : query = Form.ofFields (listFields f) := query_list f
  have hread : filterOf? query = some f := filterOf?_query h
  have htarget : (Request.ofCall (.list f)).target = withQuery "/containers/json" query := by
    rw [hquery, target_list]
  have hfields : Form.fields query = listFields f := by rw [hquery, Form.fields_ofFields]
  have hinj : ∀ g : ListFilter, g.labels.Assignable → (Request.ofCall (.list g)).query = query → g = f := by
    intro g hg he
    have hreadg := filterOf?_query hg
    rw [he, hread] at hreadg
    exact (Option.some.inj hreadg).symm
  exact ⟨htarget, hfields, ofText?_filtersText f.labels, Dict.pair_assignments h, f.labels.sorted, hread, hinj,
    fun c hc => plain_of_isWritten (isWritten_of_mem_query hc), canSend_list f, query_list_eq_empty_iff⟩

/-- Both encodings escape characters of this key and this value. -/
theorem listing_reads_back_escapes :
    let f : ListFilter := { all := true, labels := Dict.empty.insert "a\"\\" "1=2 & 50%\n+é" }
    f.labels.Assignable ∧ filterOf? (Request.ofCall (.list f)).query = some f := by
  intro f
  have h : f.labels.Assignable := by decide
  exact ⟨h, (listing_reads_back h).2.2.2.2.2.1⟩

def Request.octets? (r : Request) : Option (List UInt8) :=
  r.body.map fun d => Text.Utf8.encode (Json.render d)

open Data (required optional) in
def specOf? (query : String) (body : List UInt8) : Option CreateSpec := do
  let name ← (Form.fields query).lookup "name"
  let d ← Json.ofBytes? body
  some {
    name
    image := ← required Data.text? (d.get? "Image")
    hostname := ← optional (·.text?.map some) none (d.get? "Hostname")
    cmd := ← optional (Data.list? Data.text?) [] (d.get? "Cmd")
    env := .ofList ((← required (Data.list? Data.text?) (d.get? "Env")).map Text.pair)
    labels := ← required (Data.dict? Data.text?) (d.get? "Labels")
    openStdin := ← required Data.bool? (d.get? "OpenStdin") }

theorem target_create (s : CreateSpec) : (Request.ofCall (.create s)).target =
    withQuery "/containers/create" (Form.ofFields [("name", s.name)]) := by
  rw [Request.ofCall]

theorem query_create (s : CreateSpec) :
    (Request.ofCall (.create s)).query = Form.ofFields [("name", s.name)] := by
  rw [Request.query, target_create, cutAt_withQuery (by decide), String.ofList_toList]

theorem legible_createBody (s : CreateSpec) : (createBody s).Legible := by
  refine .table fun x hx => ?_
  obtain hx | hlast := List.mem_append.1 hx
  · obtain hx | hcmd := List.mem_append.1 hx
    · obtain himage | hhostname := List.mem_append.1 hx
      · obtain rfl := List.mem_singleton.1 himage
        exact .text s.image
      · obtain ⟨h, _, rfl⟩ := List.mem_map.1 hhostname
        exact .text h
    · split_ifs at hcmd with he
      · exact absurd hcmd List.not_mem_nil
      · obtain rfl := List.mem_singleton.1 hcmd
        exact Data.legible_ofTexts s.cmd
  · simp only [List.mem_cons, List.not_mem_nil, or_false] at hlast
    obtain rfl | rfl | rfl | rfl | rfl := hlast
    · exact Data.legible_ofTexts _
    · exact Data.legible_ofDict s.labels
    · exact .bool s.openStdin
    · exact .bool s.openStdin
    · exact .bool false

structure Asks (s : CreateSpec) (d : Data) : Prop where
  image : d.get? "Image" = some (.text s.image)
  hostname : d.get? "Hostname" = s.hostname.map .text
  cmd : d.get? "Cmd" = if s.cmd = [] then none else some (.ofTexts s.cmd)
  env : d.get? "Env" = some (.ofTexts s.env.assignments)
  labels : d.get? "Labels" = some (.ofDict s.labels)
  openStdin : d.get? "OpenStdin" = some (.bool s.openStdin)
  attachStdin : d.get? "AttachStdin" = some (.bool s.openStdin)
  stdinOnce : d.get? "StdinOnce" = some (.bool false)

theorem asks_createBody (s : CreateSpec) : Asks s (createBody s) := by
  obtain ⟨name, image, hostname, cmd, env, labels, openStdin⟩ := s
  cases hostname <;> cases cmd <;> constructor <;> rfl

theorem optional_hostname (hostname : Option String) :
    Data.optional (·.text?.map some) none (hostname.map .text) = some hostname := by
  cases hostname <;> rfl

theorem optional_cmd (cmd : List String) : Data.optional (Data.list? Data.text?) []
    (if cmd = [] then none else some (.ofTexts cmd)) = some cmd := by
  split_ifs with h
  · rw [h]
    rfl
  · exact Data.list?_ofTexts cmd

theorem specOf?_of_asks {query : String} {octets : List UInt8} {d : Data} (h : s.env.Assignable)
    (hname : Form.fields query = [("name", s.name)]) (hbody : Json.ofBytes? octets = some d)
    (hasks : Asks s d) : specOf? query octets = some s := by
  have himage : Data.required Data.text? (some (.text s.image)) = some s.image := rfl
  have henv : Data.required (Data.list? Data.text?) (some (.ofTexts s.env.assignments)) =
      some s.env.assignments := Data.list?_ofTexts _
  have hlabels : Data.required (Data.dict? Data.text?) (some (.ofDict s.labels)) = some s.labels :=
    Data.dict?_ofDict _
  have hstdin : Data.required Data.bool? (some (.bool s.openStdin)) = some s.openStdin := rfl
  have hlookup : [("name", s.name)].lookup "name" = some s.name := rfl
  simp only [specOf?, hname, hlookup, hbody, hasks.image, hasks.hostname, hasks.cmd, hasks.env,
    hasks.labels, hasks.openStdin, himage, optional_hostname, optional_cmd, henv, hlabels, hstdin,
    Option.bind_eq_bind, Option.bind_some, Dict.ofList_pair_assignments h]

theorem octets?_create (s : CreateSpec) : (Request.ofCall (.create s)).octets? =
    some (Text.Utf8.encode (Json.render (createBody s))) := rfl

theorem ofBytes?_createBody (s : CreateSpec) :
    Json.ofBytes? (Text.Utf8.encode (Json.render (createBody s))) = some (createBody s) := by
  rw [Json.ofBytes?_encode, Json.parse?_render (legible_createBody s)]

theorem specOf?_create (h : s.env.Assignable) : specOf? (Request.ofCall (.create s)).query
    (Text.Utf8.encode (Json.render (createBody s))) = some s := by
  refine specOf?_of_asks h ?_ (ofBytes?_createBody s) (asks_createBody s)
  rw [query_create, Form.fields_ofFields]

/-- What a creation asks for is read back from its query and the octets of its body, so that different
specifications make different requests. -/
theorem creation_reads_back (h : s.env.Assignable) :
    let r := Request.ofCall (.create s)
    r.target = "/containers/create?" ++ r.query ∧
    Form.fields r.query = [("name", s.name)] ∧
    ∃ octets d, r.octets? = some octets ∧ Json.ofBytes? octets = some d ∧ Asks s d ∧
      s.env.assignments.map Text.pair = s.env.toList ∧
      specOf? r.query octets = some s ∧
      ∀ t : CreateSpec, t.env.Assignable → (Request.ofCall (.create t)).query = r.query →
        (Request.ofCall (.create t)).octets? = some octets → t = s := by
  intro r
  have htarget : r.target = withQuery "/containers/create" r.query := by
    rw [query_create, target_create]
  have hfields : Form.fields r.query = [("name", s.name)] := by
    rw [query_create, Form.fields_ofFields]
  have hnonempty : r.query.isEmpty = false := by
    refine Bool.eq_false_iff.2 fun he => ?_
    have hnone : Form.fields r.query = [] := by
      rw [String.isEmpty_iff.1 he]
      exact Form.fields_ofFields []
    rw [hnone] at hfields
    cases hfields
  have hread : specOf? r.query (Text.Utf8.encode (Json.render (createBody s))) = some s := specOf?_create h
  refine ⟨?_, hfields, _, _, octets?_create s, ofBytes?_createBody s, asks_createBody s,
    Dict.pair_assignments h, hread, ?_⟩
  · have hpath : "/containers/create" ++ "?" = "/containers/create?" := by decide
    rw [htarget, withQuery, if_neg (by simp [hnonempty]), hpath]
  · intro t ht hquery hoctets
    have hreadt := specOf?_create ht
    rw [hquery, Option.some.inj ((octets?_create t).symm.trans hoctets), hread] at hreadt
    exact (Option.some.inj hreadt).symm

/-- Without a host name; the variable's value holds an `=`. -/
theorem creation_reads_back_variable :
    let s : CreateSpec :=
      { name := "build 1", image := "alpine:3", hostname := none, cmd := ["sh", "-c", "a\t\"é"]
        env := Dict.empty.insert "OPTS" "-x=1", labels := Dict.empty, openStdin := true }
    s.env.Assignable ∧ ∃ octets, (Request.ofCall (.create s)).octets? = some octets ∧
      specOf? (Request.ofCall (.create s)).query octets = some s := by
  intro s
  have h : s.env.Assignable := by decide
  obtain ⟨octets, _, hoctets, _, _, _, hread, _⟩ := (creation_reads_back h).2.2
  exact ⟨h, octets, hoctets, hread⟩

end Engine

end ContainerFleet
