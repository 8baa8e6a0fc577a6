import ContainerFleet.Node.Connector
import ContainerFleet.Node.Retention
import ContainerFleet.Proofs.Dict
import ContainerFleet.Proofs.JsonText

namespace ContainerFleet

namespace Data

variable {d r : Data} {fields : List (String × Data)} {tag name : String} {names : List String}
  {values : List (Option Data)} {o : Option Data} {isOpen : Bool} {bits n default i : Nat}

/-- What a value gives for its `i`th field: a table by the field's name, a list by its place. -/
def given (name : String) (i : Nat) : Data → Option Data
  | .table fields => fields.lookup name
  | .list items => items[i]?
  | _ => none

/-- The table with the fields of a schema, in order: each has the value that `d` gives for it, or else its
default. A field without a default has to be given. -/
def filled? (schema : List (String × Option Data)) (d : Data) : Option Data :=
  (schema.zipIdx.mapM fun ((name, default), i) => ((d.given name i).or default).map (name, ·)).map .table

theorem variant?_cases (h : d.variant? = some (tag, r)) :
    (∃ fields, d = .table fields ∧ fields.filter (·.1 = "type") = [("type", .text tag)] ∧
      r = .table (fields.filter (·.1 ≠ "type"))) ∨
    ∃ items, d = .list (.text tag :: items) ∧ r = .list items := by
  unfold variant? at h
  split at h
  · rename_i fields
    split at h
    · rename_i k name heq
      obtain ⟨rfl, rfl⟩ := Prod.ext_iff.1 (Option.some.inj h)
      have hmem : (k, text name) ∈ fields.filter (·.1 = "type") := heq ▸ List.mem_cons_self
      obtain rfl : k = "type" := of_decide_eq_true (List.mem_filter.1 hmem).2
      exact .inl ⟨fields, rfl, heq, rfl⟩
    · cases h
  · obtain ⟨rfl, rfl⟩ := Prod.ext_iff.1 (Option.some.inj h)
    exact .inr ⟨_, rfl, rfl⟩
  · cases h

theorem given_type (h : d.variant? = some (tag, r)) : d.given "type" 0 = some (.text tag) := by
  obtain ⟨fields, rfl, hsingle, -⟩ | ⟨items, rfl, -⟩ := variant?_cases h
  · have hmem : ("type", text tag) ∈ fields.filter (·.1 = "type") := hsingle ▸ List.mem_cons_self
    exact Dict.lookup_of_single (by rw [hsingle]; exact Nat.le_refl 1) (List.mem_filter.1 hmem).1
  · rfl

theorem lookup_filter_type (h : name ≠ "type") :
    (fields.filter (·.1 ≠ "type")).lookup name = fields.lookup name := by
  induction fields with
  | nil => rfl
  | cons f fields ih =>
    rw [List.filter_cons, Dict.lookup_cons f fields, ← ih]
    split_ifs with hf hn hn
    · rw [Dict.lookup_cons, if_pos hn]
    · rw [Dict.lookup_cons, if_neg hn]
    · exact absurd (hn ▸ h) (by simpa using hf)
    · rfl

/-- What the reader of a record gets is what the value gives; the name of the variant comes before it. -/
theorem given_of_record? (hv : d.variant? = some (tag, r)) (hr : r.record? names isOpen = some values)
    (hi : names[i]? = some name) (hname : name ≠ "type") : values[i]? = some (d.given name (i + 1)) := by
  obtain ⟨fields, rfl, -, rfl⟩ | ⟨items, rfl, rfl⟩ := variant?_cases hv
  · rw [record?] at hr
    split at hr
    · obtain rfl := Option.some.inj hr
      rw [List.getElem?_map, hi, Option.map_some, given, lookup_filter_type hname]
    · cases hr
  · rw [record?] at hr
    split at hr
    · obtain rfl := Option.some.inj hr
      have hlt : i < names.length := (List.getElem?_eq_some_iff.1 hi).1
      rw [given, List.getElem?_cons_succ]
      by_cases hitem : i < items.length
      · simp [List.getElem?_append_left, hitem]
      · have hnone : items[i]? = none := List.getElem?_eq_none (Nat.not_lt.1 hitem)
        rw [hnone, List.getElem?_append_right (by simpa using Nat.not_lt.1 hitem),
          List.getElem?_replicate, if_pos (by simp; omega)]
    · cases hr

theorem record?_eq_none (h : name ∈ fields.map (·.1)) (hname : name ∉ names) :
    (table fields).record? names false = none := by
  rw [record?, if_neg]
  intro hall
  obtain ⟨f, hf, rfl⟩ := List.mem_map.1 h
  have hknown := List.all_eq_true.1 (Bool.and_eq_true_iff.1 hall).2 f hf
  exact hname (List.contains_iff_mem.1 hknown)

theorem nat?_eq_some_iff : d.nat? bits = some n ↔ n < Word.count bits ∧ d = .nat n := by
  rw [nat?, Option.map_eq_some_iff]
  constructor
  · rintro ⟨k, hk, rfl⟩
    unfold int? at hk
    split at hk
    · split at hk
      · obtain rfl := Option.some.inj hk
        refine ⟨by omega, congrArg Data.int ?_⟩
        omega
      · cases hk
    · cases hk
  · rintro ⟨hn, rfl⟩
    exact ⟨n, by rw [nat, int?, if_pos (by omega)], Int.toNat_natCast n⟩

theorem or_default_nat (hd : default < Word.count bits) (h : optional (nat? bits) default o = some n) :
    n < Word.count bits ∧ o.or (some (.nat default)) = some (.nat n) := by
  cases o with
  | none =>
    obtain rfl := Option.some.inj h
    exact ⟨hd, rfl⟩
  | some d =>
    obtain ⟨hn, rfl⟩ := nat?_eq_some_iff.1 h
    exact ⟨hn, rfl⟩

theorem or_required_text {s : String} (h : required text? o = some s) : o.or none = some (.text s) := by
  obtain ⟨d, rfl, hd⟩ := Option.bind_eq_some_iff.1 h
  cases d <;> cases hd
  rfl

theorem legible_ofText? (s : Option String) : (ofText? s).Legible := by
  cases s with
  | none => exact .null
  | some s => exact .text s

theorem legible_nat (h : n < Word.count 64) : (nat n).Legible :=
  .int (Int.le_trans (by decide) (Int.natCast_nonneg n)) (Int.ofNat_lt.2 h)

def decode? {α : Type} (read : Data → Option α) (s : String) : Option α := (Json.ofText? s).bind read

/-- What a text for a value means does not depend on how often it was read and written. -/
structure Stable {α : Type} (write : α → Data) (read : Data → Option α) (InRange : α → Prop)
    (schema : α → List (String × Option Data)) : Prop where
  back : ∀ x, InRange x → decode? read (Json.toText (write x)) = some x
  /-- What is read is in range. It is written with all its fields, as they were given or by default. -/
  filled : ∀ d x, read d = some x → InRange x ∧ d.filled? (schema x) = some (write x)
  /-- From then on its text stays the same. -/
  again : ∀ s x, decode? read s = some x →
    (decode? read (Json.toText (write x))).map (fun y => Json.toText (write y)) = some (Json.toText (write x))

theorem Stable.of_data {α : Type} {write : α → Data} {read : Data → Option α} {InRange : α → Prop}
    {schema : α → List (String × Option Data)} (hlegible : ∀ x, InRange x → (write x).Legible)
    (hback : ∀ x, InRange x → read (write x) = some x)
    (hread : ∀ d x, read d = some x → InRange x ∧ d.filled? (schema x) = some (write x)) :
    Stable write read InRange schema := by
  have back : ∀ x, InRange x → decode? read (Json.toText (write x)) = some x := by
    intro x hx
    rw [decode?, Json.ofText?_toText_of_legible (hlegible x hx), Option.bind_some, hback x hx]
  refine ⟨back, hread, fun s x hs => ?_⟩
  obtain ⟨d, -, hd⟩ := Option.bind_eq_some_iff.1 hs
  rw [back x (hread d x hd).1, Option.map_some]

end Data

namespace Connector

variable {d r : Data} {o o' : Option Data} {u url : String} {s : Option String} {c : Connector}

def InRange : Connector → Prop
  | ssh port _ => port < Word.count 16
  | _ => True

def schema : Connector → List (String × Option Data)
  | attach _ => [("type", none), ("user", some .null)]
  | ssh _ _ => [("type", none), ("port", some (.nat 22)), ("credentials_id", some .null)]
  | jnlp _ _ => [("type", none), ("controller_url", none), ("work_dir", some .null)]

theorem or_default_text (h : text? o = some s) : o.or (some .null) = some (.ofText? s) := by
  cases o with
  | none =>
    obtain rfl := Option.some.inj h
    rfl
  | some d => cases d <;> cases h <;> rfl

theorem text?_ofText? (s : Option String) : text? (some (.ofText? s)) = some s := by cases s <;> rfl

theorem legible_toData (h : c.InRange) : c.toData.Legible := by
  cases c with
  | attach user => exact .table (by simp [Data.legible_ofText?, Data.Legible.text])
  | ssh port credentialsId =>
    have hport : (Data.nat port).Legible := Data.legible_nat (Nat.lt_trans h (by decide))
    exact .table (by simp [Data.legible_ofText?, Data.Legible.text, hport])
  | jnlp controllerUrl workDir => exact .table (by simp [Data.legible_ofText?, Data.Legible.text])

theorem ofData?_toData (h : c.InRange) : ofData? c.toData = some c := by
  cases c with
  | attach user => cases user <;> rfl
  | ssh port credentialsId =>
    have hport : Data.nat? 16 (.nat port) = some port := Data.nat?_eq_some_iff.2 ⟨h, rfl⟩
    change ((Data.optional (Data.nat? 16) defaultPort (some (.nat port))).bind fun port =>
      (text? (some (.ofText? credentialsId))).bind fun c => some (ssh port c)) = _
    rw [Data.optional, hport, text?_ofText?]
    rfl
  | jnlp controllerUrl workDir => cases workDir <;> rfl

theorem filled_attach (hv : d.variant? = some ("attach", r)) (hr : r.record? ["user"] true = some [o])
    (h : text? o = some s) : d.filled? (attach s).schema = some (attach s).toData := by
  have htype := Data.given_type hv
  have hgiven := Data.given_of_record? hv hr (i := 0) rfl (by decide)
  obtain rfl := Option.some.inj hgiven
  simp [Data.filled?, schema, toData, htype, or_default_text h]

theorem filled_ssh {port : Nat} (hv : d.variant? = some ("ssh", r))
    (hr : r.record? ["port", "credentials_id"] true = some [o, o'])
    (h : o.or (some (.nat 22)) = some (.nat port)) (h' : text? o' = some s) :
    d.filled? (ssh port s).schema = some (ssh port s).toData := by
  have htype := Data.given_type hv
  have hport := Data.given_of_record? hv hr (i := 0) rfl (by decide)
  have hid := Data.given_of_record? hv hr (i := 1) rfl (by decide)
  obtain rfl := Option.some.inj hport
  obtain rfl := Option.some.inj hid
  simp [Data.filled?, schema, toData, htype, h, or_default_text h']

theorem filled_jnlp (hv : d.variant? = some ("jnlp", r))
    (hr : r.record? ["controller_url", "work_dir"] true = some [o, o'])
    (h : Data.required Data.text? o = some url) (h' : text? o' = some s) :
    d.filled? (jnlp url s).schema = some (jnlp url s).toData := by
  have htype := Data.given_type hv
  have hurl := Data.given_of_record? hv hr (i := 0) rfl (by decide)
  have hdir := Data.given_of_record? hv hr (i := 1) rfl (by decide)
  obtain rfl := Option.some.inj hurl
  obtain rfl := Option.some.inj hdir
  simp [Data.filled?, schema, toData, htype, Data.or_required_text h, or_default_text h']

theorem of_ofData? (h : ofData? d = some c) : c.InRange ∧ d.filled? c.schema = some c.toData := by
  simp only [ofData?, Option.bind_eq_bind, Option.bind_eq_some_iff] at h
  obtain ⟨⟨tag, r⟩, hv, h⟩ := h
  split at h
  · rename_i heq
    obtain ⟨rfl, rfl⟩ := Prod.mk.inj heq
    obtain ⟨values, hr, h⟩ := Option.bind_eq_some_iff.1 h
    split at h
    · obtain ⟨user, huser, h⟩ := Option.bind_eq_some_iff.1 h
      obtain rfl := Option.some.inj h
      exact ⟨trivial, filled_attach hv hr huser⟩
    · cases h
  · rename_i heq
    obtain ⟨rfl, rfl⟩ := Prod.mk.inj heq
    obtain ⟨values, hr, h⟩ := Option.bind_eq_some_iff.1 h
    split at h
    · obtain ⟨port, hport, h⟩ := Option.bind_eq_some_iff.1 h
      obtain ⟨credentialsId, hid, h⟩ := Option.bind_eq_some_iff.1 h
      obtain rfl := Option.some.inj h
      obtain ⟨hrange, hfill⟩ := Data.or_default_nat (by decide) hport
      exact ⟨hrange, filled_ssh hv hr hfill hid⟩
    · cases h
  · rename_i heq
    obtain ⟨rfl, rfl⟩ := Prod.mk.inj heq
    obtain ⟨values, hr, h⟩ := Option.bind_eq_some_iff.1 h
    split at h
    · obtain ⟨controllerUrl, hurl, h⟩ := Option.bind_eq_some_iff.1 h
      obtain ⟨workDir, hdir, h⟩ := Option.bind_eq_some_iff.1 h
      obtain rfl := Option.some.inj h
      exact ⟨trivial, filled_jnlp hv hr hurl hdir⟩
    · cases h
  · cases h

theorem stable : Data.Stable toData ofData? InRange schema :=
  .of_data (fun _ => legible_toData) (fun _ => ofData?_toData) fun _ _ => of_ofData?

end Connector

namespace RetentionPolicy

variable {d : Data} {p : RetentionPolicy} {fields : List (String × Data)} {name : String}

def InRange (p : RetentionPolicy) : Prop := p.minutes < Word.count 64

def schema (_ : RetentionPolicy) : List (String × Option Data) :=
  [("type", none), ("idle_minutes", some (.nat 10))]

def variant : RetentionPolicy → String
  | idle _ => "idle"
  | once _ => "once"

theorem toData_eq (p : RetentionPolicy) :
    p.toData = .table [("type", .text p.variant), ("idle_minutes", .nat p.minutes)] := by
  cases p <;> rfl

theorem legible_toData (h : p.InRange) : p.toData.Legible := by
  have hminutes : (Data.nat p.minutes).Legible := Data.legible_nat h
  rw [toData_eq]
  exact .table (by simp [hminutes, Data.Legible.text])

theorem ofData?_toData (h : p.InRange) : ofData? p.toData = some p := by
  have hminutes : Data.nat? 64 (.nat p.minutes) = some p.minutes := Data.nat?_eq_some_iff.2 ⟨h, rfl⟩
  cases p with
  | idle minutes => exact congrArg (·.bind fun m => some (idle m)) hminutes
  | once minutes => exact congrArg (·.bind fun m => some (once m)) hminutes

theorem ofData?_cases (h : ofData? d = some p) : ∃ r o, d.variant? = some (p.variant, r) ∧
    r.record? ["idle_minutes"] false = some [o] ∧
    Data.optional (Data.nat? 64) defaultMinutes o = some p.minutes := by
  simp only [ofData?, Option.bind_eq_bind, Option.bind_eq_some_iff] at h
  obtain ⟨⟨tag, r⟩, hv, h⟩ := h
  dsimp only at h
  split at h
  case h_3 => cases h
  all_goals
    rw [Option.bind_some] at h
    obtain ⟨values, hr, h⟩ := Option.bind_eq_some_iff.1 h
    split at h
    · obtain ⟨m, hm, h⟩ := Option.bind_eq_some_iff.1 h
      obtain rfl := Option.some.inj h
      exact ⟨r, _, hv, hr, hm⟩
    · cases h

theorem of_ofData? (h : ofData? d = some p) : p.InRange ∧ d.filled? p.schema = some p.toData := by
  obtain ⟨r, o, hv, hr, hm⟩ := ofData?_cases h
  have htype := Data.given_type hv
  have hminutes := Data.given_of_record? hv hr (i := 0) rfl (by decide)
  obtain rfl := Option.some.inj hminutes
  obtain ⟨hrange, hfill⟩ := Data.or_default_nat (by decide) hm
  have hfill : (d.given "idle_minutes" 1).or (some (.nat 10)) = some (.nat p.minutes) := hfill
  refine ⟨hrange, ?_⟩
  simp [Data.filled?, schema, toData_eq, htype, hfill]

theorem ofData?_eq_none (h : name ∈ fields.map (·.1)) (hname : name ∉ ["type", "idle_minutes"]) :
    ofData? (.table fields) = none := by
  rw [List.mem_cons, List.mem_singleton, not_or] at hname
  by_contra hsome
  obtain ⟨p, hp⟩ := Option.ne_none_iff_exists'.1 hsome
  obtain ⟨r, o, hv, hr, -⟩ := ofData?_cases hp
  obtain ⟨fields', hfields, -, rfl⟩ | ⟨items, hitems, -⟩ := Data.variant?_cases hv
  · obtain rfl := Data.table.inj hfields
    obtain ⟨f, hf, rfl⟩ := List.mem_map.1 h
    have hkept : f.1 ∈ (fields.filter (·.1 ≠ "type")).map (·.1) :=
      List.mem_map_of_mem (List.mem_filter.2 ⟨hf, by simpa using hname.1⟩)
    rw [Data.record?_eq_none hkept (by simpa using hname.2)] at hr
    cases hr
  · cases hitems

theorem stable : Data.Stable toData ofData? InRange schema :=
  .of_data (fun _ => legible_toData) (fun _ => ofData?_toData) fun _ _ => of_ofData?

end RetentionPolicy

namespace Data

/-- Connectors and retention policies outlast their texts, and a policy with an unknown field is refused. -/
theorem launch_and_retention_stable :
    Stable Connector.toData Connector.ofData? Connector.InRange Connector.schema ∧
      Stable RetentionPolicy.toData RetentionPolicy.ofData? RetentionPolicy.InRange RetentionPolicy.schema ∧
      ∀ (s : String) (fields : List (String × Data)) (name : String), Json.ofText? s = some (.table fields) →
        name ∈ fields.map (·.1) → name ∉ ["type", "idle_minutes"] →
        decode? RetentionPolicy.ofData? s = none := by
  refine ⟨Connector.stable, RetentionPolicy.stable, fun s fields name hs hmem hname => ?_⟩
  rw [decode?, hs, Option.bind_some, RetentionPolicy.ofData?_eq_none hmem hname]

/-- The largest port, a policy written as a list, and one that is refused. -/
theorem launch_and_retention_stable_sample :
    let c : Connector := .ssh 65535 none
    let p : RetentionPolicy := .once 10
    let refused : List (String × Data) := [("type", .text "idle"), ("idle", .nat 3)]
    c.InRange ∧ decode? Connector.ofData? (Json.toText c.toData) = some c ∧
      decode? RetentionPolicy.ofData? "[\"once\"]" = some p ∧ p.InRange ∧
      (list [.text "once"]).filled? p.schema = some p.toData ∧
      (decode? RetentionPolicy.ofData? (Json.toText p.toData)).map (fun p => Json.toText p.toData) =
        some (Json.toText p.toData) ∧
      decode? RetentionPolicy.ofData? (Json.toText (table refused)) = none := by
  intro c p refused
  obtain ⟨hconnector, hpolicy, hunknown⟩ := launch_and_retention_stable
  have hc : c.InRange := show 65535 < Word.count 16 by decide
  have hread : decode? RetentionPolicy.ofData? "[\"once\"]" = some p := by decide +kernel
  have hlist : RetentionPolicy.ofData? (list [.text "once"]) = some p := by rfl
  have hrefused : Json.ofText? (Json.toText (table refused)) = some (table refused) :=
    Json.ofText?_toText_of_legible (.table (by simp [refused, Legible.text, legible_nat (n := 3) (by decide)]))
  obtain ⟨hp, hfilled⟩ := hpolicy.filled _ p hlist
  exact ⟨hc, hconnector.back c hc, hread, hp, hfilled, hpolicy.again _ p hread,
    hunknown _ refused "idle" hrefused (by decide) (by decide)⟩

end Data

end ContainerFleet
