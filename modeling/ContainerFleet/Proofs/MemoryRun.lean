import ContainerFleet.Proofs.Removal
import Mathlib.Data.List.Induction

namespace ContainerFleet

theorem ListFilter.admits_iff {f : ListFilter} {labels : Dict String} : f.admits labels = true ↔
    ∀ key v, f.labels.get? key = some v → labels.get? key = some v := by
  simp [admits, Dict.toList, Dict.get?_eq_some_iff]

namespace Memory

variable {m : Memory} {now : Timestamp} {c : Call} {e : RuntimeError} {f : ListFilter}

theorem mem_listed (hm : m.Keyed) {s : Summary} : s ∈ (m.listed f).map (·.summary) ↔
    ∃ x, m.get? s.id = some x ∧ s = x.summary ∧ (f.all = true ∨ x.running = true) ∧
      ∀ key v, f.labels.get? key = some v → x.labels.get? key = some v := by
  simp only [listed, List.mem_map, List.mem_filter, Bool.and_eq_true, Bool.or_eq_true,
    ListFilter.admits_iff, Dict.KeyedBy.mem_values_iff hm]
  constructor
  · rintro ⟨x, ⟨hx, hshown⟩, rfl⟩
    exact ⟨x, hx, rfl, hshown⟩
  · rintro ⟨x, hx, rfl, hshown⟩
    exact ⟨x, ⟨hx, hshown⟩, rfl⟩

theorem sorted_listed (hm : m.Keyed) : ((m.listed f).map (·.summary)).Pairwise (·.id < ·.id) :=
  List.pairwise_map.2 ((Dict.KeyedBy.sorted_values hm).filter _)

/-- A call answers what the containers say, and changes what it is about and nothing else. One that fails
changes nothing. -/
structure Exact (m : Memory) : Prop where
  failed : ∀ now (c : Call) e, (m.answer now c).1 = .error e → (m.answer now c).2 = m
  creates : ∀ now spec, (∃ id, (m.answer now (.create spec)).1 = .ok id) ↔
    m.isBroken .create = false ∧ m.Free spec.name
  created : ∀ now spec id, (m.answer now (.create spec)).1 = .ok id →
    ∀ k, (m.answer now (.create spec)).2.get? k = if k = id then some (spec.container id now) else m.get? k
  starts : ∀ now id, (m.answer now (.start id)).1 = .ok () ↔
    m.isBroken .start = false ∧ ∃ x, m.get? id = some x
  started : ∀ now id, (m.answer now (.start id)).1 = .ok () →
    ∀ k, (m.answer now (.start id)).2.get? k = if k = id then (m.get? id).map (·.started) else m.get? k
  stops : ∀ now id timeout, (m.answer now (.stop id timeout)).1 = .ok () ↔
    m.isBroken .stop = false ∧ ∃ x, m.get? id = some x
  stopped : ∀ now id timeout, (m.answer now (.stop id timeout)).1 = .ok () → ∀ k,
    (m.answer now (.stop id timeout)).2.get? k = if k = id then (m.get? id).map (·.stopped) else m.get? k
  removes : ∀ now id o, (m.answer now (.remove id o)).1 = .ok () ↔
    m.isBroken .remove = false ∧ ∃ x, m.get? id = some x ∧ (x.running = true → o.force = true)
  removed : ∀ now id o, (m.answer now (.remove id o)).1 = .ok () →
    ∀ k, (m.answer now (.remove id o)).2.get? k = if k = id then none else m.get? k
  inspects : ∀ now id, (m.answer now (.inspect id)).2 = m ∧
    ∀ d, (m.answer now (.inspect id)).1 = .ok d ↔ ∃ x, m.get? id = some x ∧ d = x.details
  lists : ∀ now f, (m.answer now (.list f)).2 = m ∧
    ((∃ l, (m.answer now (.list f)).1 = .ok l) ↔ m.isBroken .list = false)
  listed : ∀ now f (l : List Summary), (m.answer now (.list f)).1 = .ok l → l.Pairwise (·.id < ·.id) ∧
    ∀ s, s ∈ l ↔ ∃ x, m.get? s.id = some x ∧ s = x.summary ∧ (f.all = true ∨ x.running = true) ∧
      ∀ key v, f.labels.get? key = some v → x.labels.get? key = some v

theorem answer_failed (h : (m.answer now c).1 = .error e) : (m.answer now c).2 = m := by
  by_cases hb : m.isBroken c.kind = true
  · exact congrArg Prod.snd (if_pos hb)
  · cases c with
    | list f => exact (answer_list now f).1
    | inspect id => rfl
    | create spec => exact gate_failed create_failed h
    | start id => exact gate_failed update_failed h
    | stop id timeout => exact gate_failed update_failed h
    | remove id o => exact gate_failed remove_failed h

theorem exact_of_keyed (hm : m.Keyed) : m.Exact where
  failed _ _ _ := answer_failed
  creates now spec := by
    simp only [answer_create_eq, gate_ok_iff, create_ok_iff]
    constructor
    · rintro ⟨_, hb, hfree, -⟩
      exact ⟨hb, hfree⟩
    · rintro ⟨hb, hfree⟩
      exact ⟨_, hb, hfree, rfl⟩
  created now spec id h := by
    have hcall : m.answer now (.create spec) = m.create now spec := gate_of_ok h
    rw [hcall] at h ⊢
    exact fun k => get?_create h
  starts now id := by rw [answer_start_eq, gate_ok_iff, update_ok_iff]
  started now id h := by
    have hcall : m.answer now (.start id) = m.update id (·.started) := gate_of_ok h
    rw [hcall] at h ⊢
    exact fun k => get?_update
  stops now id timeout := by rw [answer_stop_eq, gate_ok_iff, update_ok_iff]
  stopped now id timeout h := by
    have hcall : m.answer now (.stop id timeout) = m.update id (·.stopped) := gate_of_ok h
    rw [hcall] at h ⊢
    exact fun k => get?_update
  removes now id o := by rw [answer_remove_eq, gate_ok_iff, remove_ok_iff]
  removed now id o h := by
    have hcall : m.answer now (.remove id o) = m.remove id o.force := gate_of_ok h
    rw [hcall] at h ⊢
    exact fun k => get?_remove h
  inspects now id := by
    refine ⟨rfl, fun d => ?_⟩
    cases hx : m.get? id with
    | none => simp [answer, Call.kind, isBroken, hx]
    | some x => simp [answer_inspect hx, eq_comm]
  lists now f := by
    refine ⟨(answer_list now f).1, ?_⟩
    simp only [answer_list_eq, gate_ok_iff]
    constructor
    · rintro ⟨_, hb, -⟩
      exact hb
    · intro hb
      exact ⟨_, hb, rfl⟩
  listed now f l h := by
    obtain rfl := (answer_list now f).2 l h
    exact ⟨sorted_listed hm, fun s => mem_listed hm⟩

end Memory

inductive MemoryOp where
  | insert (c : Container)
  | setBroken (k : CallKind) (broken : Bool)
  | call (now : Timestamp) (c : Call)

namespace MemoryOp

def apply (m : Memory) : MemoryOp → Memory
  | insert c => m.insert c
  | setBroken k broken => m.setBroken k broken
  | call now c => (m.answer now c).2

def Inserts (id : String) : MemoryOp → Prop
  | insert c => c.id = id
  | _ => False

def Creates (m : Memory) (id : String) : MemoryOp → Prop
  | call now (.create spec) => (m.answer now (.create spec)).1 = .ok id
  | _ => False

def Removes (m : Memory) (id : String) : MemoryOp → Prop
  | call now (.remove k o) => k = id ∧ (m.answer now (.remove k o)).1 = .ok ()
  | _ => False

variable {m : Memory} {id : String} {op : MemoryOp}

theorem keyed_apply (h : m.Keyed) : (op.apply m).Keyed := by
  cases op with
  | insert c => exact h.insert
  | setBroken k broken => exact h
  | call now c => exact h.answer c

theorem issued_apply : m.issued ≤ (op.apply m).issued := by
  cases op with
  | insert c | setBroken k broken => exact Nat.le_refl _
  | call now c => exact (Memory.answer_follows c).issued

/-- A container is there if it was just put there, or if it was there before and was not removed. -/
theorem held_apply (he : m.Exact) : (op.apply m).get? id ≠ none ↔
    (op.Inserts id ∨ op.Creates m id) ∨ m.get? id ≠ none ∧ ¬ op.Removes m id := by
  cases op with
  | insert c =>
    have hget : (m.insert c).get? id = if id = c.id then some c else m.get? id := Dict.get?_insert
    obtain rfl | hid := eq_or_ne id c.id
    · simp [apply, Inserts, hget]
    · simp [apply, Inserts, Creates, Removes, hget, hid, hid.symm]
  | setBroken k broken =>
    have hget : (m.setBroken k broken).get? id = m.get? id := rfl
    simp [apply, Inserts, Creates, Removes, hget]
  | call now c =>
    cases hc : (m.answer now c).1 with
    | error e =>
      have hfailed : (m.answer now c).2 = m := he.failed now c e hc
      cases c <;> simp [apply, Inserts, Creates, Removes, hfailed, hc]
    | ok reply =>
      cases c with
      | list f => simp [apply, Inserts, Creates, Removes, (he.lists now f).1]
      | inspect id' => simp [apply, Inserts, Creates, Removes, (he.inspects now id').1]
      | create spec =>
        have hget := he.created now spec reply hc id
        obtain rfl | hid := eq_or_ne id reply
        · simp [apply, Inserts, Creates, hget, hc]
        · simp [apply, Inserts, Creates, Removes, hget, hc, hid, hid.symm]
      | start id' =>
        have hget := he.started now id' hc id
        obtain rfl | hid := eq_or_ne id id'
        · simp [apply, Inserts, Creates, Removes, hget]
        · simp [apply, Inserts, Creates, Removes, hget, hid]
      | stop id' timeout =>
        have hget := he.stopped now id' timeout hc id
        obtain rfl | hid := eq_or_ne id id'
        · simp [apply, Inserts, Creates, Removes, hget]
        · simp [apply, Inserts, Creates, Removes, hget, hid]
      | remove id' o =>
        have hget := he.removed now id' o hc id
        obtain rfl | hid := eq_or_ne id id'
        · simp [apply, Inserts, Creates, Removes, hget, hc]
        · simp [apply, Inserts, Creates, Removes, hget, hid, hid.symm]

theorem issued_of_creates (h : op.Creates m id) :
    id = Memory.idOf (m.issued + 1) ∧ m.issued + 1 ≤ (op.apply m).issued := by
  cases op with
  | call now c =>
    cases c with
    | create spec =>
      have hc : (m.answer now (.create spec)).1 = .ok id := h
      obtain ⟨hb, hcreate⟩ := Memory.gate_ok_iff.1 hc
      obtain ⟨hfree, rfl⟩ := Memory.create_ok_iff.1 hcreate
      have happly : (call now (.create spec)).apply m = (m.create now spec).2 :=
        congrArg Prod.snd (if_neg (Bool.eq_false_iff.1 hb))
      rw [happly, Memory.create_of_free hfree]
      exact ⟨rfl, Nat.le_refl _⟩
    | _ => cases h
  | _ => cases h

end MemoryOp

namespace Memory

variable {ops : List MemoryOp} {op : MemoryOp} {id : String} {n : Nat}

def run (ops : List MemoryOp) : Memory := ops.foldl (fun m op => op.apply m) .empty

theorem run_concat (ops : List MemoryOp) (op : MemoryOp) : run (ops ++ [op]) = op.apply (run ops) := by
  rw [run, List.foldl_append]
  rfl

theorem keyed_run (ops : List MemoryOp) : (run ops).Keyed := by
  induction ops using List.reverseRecOn with
  | nil => exact keyed_empty
  | append_singleton ops op ih =>
    rw [run_concat]
    exact MemoryOp.keyed_apply ih

/-- An operation like `P` was carried out, and since then the container with the id was not removed. -/
def Since (P : Memory → MemoryOp → Prop) (id : String) (ops : List MemoryOp) : Prop :=
  ∃ pre op post, ops = pre ++ op :: post ∧ P (run pre) op ∧
    ∀ mid op' rest, post = mid ++ op' :: rest → ¬ op'.Removes (run (pre ++ op :: mid)) id

theorem since_concat {P : Memory → MemoryOp → Prop} :
    Since P id (ops ++ [op]) ↔ P (run ops) op ∨ Since P id ops ∧ ¬ op.Removes (run ops) id := by
  constructor
  · rintro ⟨pre, op₁, post, hsplit, hop, hkept⟩
    obtain rfl | ⟨post', last, rfl⟩ := List.eq_nil_or_concat' post
    · obtain ⟨rfl, hlast⟩ := List.append_inj' hsplit rfl
      obtain rfl := List.singleton_injective hlast
      exact .inl hop
    · have hsplit' : ops ++ [op] = (pre ++ op₁ :: post') ++ [last] := by
        rw [hsplit, List.append_assoc, List.cons_append]
      obtain ⟨rfl, hlast⟩ := List.append_inj' hsplit' rfl
      obtain rfl := List.singleton_injective hlast
      refine .inr ⟨⟨pre, op₁, post', rfl, hop, fun mid op' rest hpost => ?_⟩, hkept post' op [] rfl⟩
      exact hkept mid op' (rest ++ [op]) (by rw [hpost, List.append_assoc, List.cons_append])
  · rintro (hop | ⟨⟨pre, op₁, post, rfl, hop, hkept⟩, hlast⟩)
    · exact ⟨ops, op, [], rfl, hop, by simp⟩
    · refine ⟨pre, op₁, post ++ [op], by simp, hop, fun mid op' rest hpost => ?_⟩
      obtain rfl | ⟨rest', last, rfl⟩ := List.eq_nil_or_concat' rest
      · obtain ⟨rfl, heq⟩ := List.append_inj' hpost rfl
        obtain rfl := List.singleton_injective heq
        exact hlast
      · have hpost' : post ++ [op] = (mid ++ op' :: rest') ++ [last] := by
          rw [hpost, List.append_assoc, List.cons_append]
        obtain ⟨rfl, -⟩ := List.append_inj' hpost' rfl
        exact hkept mid op' rest' rfl

/-- A container is held just if it was put in place or created, and was not removed since. -/
theorem held_run (ops : List MemoryOp) (id : String) : (run ops).get? id ≠ none ↔
    Since (fun m op => op.Inserts id ∨ op.Creates m id) id ops := by
  induction ops using List.reverseRecOn with
  | nil => simp [run, Since, Memory.get?, Memory.empty]
  | append_singleton ops op ih =>
    rw [run_concat, MemoryOp.held_apply (exact_of_keyed (keyed_run ops)), ih, since_concat]

/-- Ids that were given out have the numbers up to the one given out last. -/
theorem created_run {pre : List MemoryOp} (h : op.Creates (run pre) id) (post : List MemoryOp) :
    ∃ n, id = idOf n ∧ n ≤ (run (pre ++ op :: post)).issued := by
  obtain ⟨rfl, hissued⟩ := MemoryOp.issued_of_creates h
  refine ⟨_, rfl, ?_⟩
  induction post using List.reverseRecOn with
  | nil => rwa [run_concat]
  | append_singleton post op' ih =>
    rw [← List.cons_append, ← List.append_assoc, run_concat]
    exact Nat.le_trans ih MemoryOp.issued_apply

/-- After any operations each call does what it should, nothing is lost and nothing comes from nowhere. A
container that is created gets an id that was not given out before; another container has it just if one
was put in place under this id and not removed since, and is then replaced. -/
theorem run_exact (ops : List MemoryOp) : (run ops).Exact ∧
    (∀ id, (run ops).get? id ≠ none ↔ Since (fun m op => op.Inserts id ∨ op.Creates m id) id ops) ∧
    ∀ now spec id, ((run ops).answer now (.create spec)).1 = .ok id →
      (∀ pre op post, ops = pre ++ op :: post → ¬ op.Creates (run pre) id) ∧
      ((run ops).get? id ≠ none ↔ Since (fun _ op => op.Inserts id) id ops) := by
  refine ⟨exact_of_keyed (keyed_run ops), held_run ops, fun now spec id h => ?_⟩
  have hcreates : (MemoryOp.call now (.create spec)).Creates (run ops) id := h
  obtain ⟨hid, -⟩ := MemoryOp.issued_of_creates hcreates
  have hfresh : ∀ pre op post, ops = pre ++ op :: post → ¬ op.Creates (run pre) id := by
    rintro pre op post rfl hbefore
    obtain ⟨n, hn, hle⟩ := created_run hbefore post
    have hnumber := idOf_injective (hid.symm.trans hn)
    omega
  refine ⟨hfresh, (held_run ops id).trans ⟨?_, ?_⟩⟩
  · rintro ⟨pre, op, post, hsplit, hop | hop, hkept⟩
    · exact ⟨pre, op, post, hsplit, hop, hkept⟩
    · exact absurd hop (hfresh pre op post hsplit)
  · rintro ⟨pre, op, post, hsplit, hop, hkept⟩
    exact ⟨pre, op, post, hsplit, .inl hop, hkept⟩

/-- The container that was put in place has the id that is given out next. -/
theorem run_exact_taken :
    let x : Container :=
      { id := "000000000001", name := "a", image := "img", status := none, running := true
        created := .epoch, labels := .empty }
    let spec : CreateSpec := { name := "b", image := "img" }
    let m := run [.insert x]
    (m.answer .epoch (.create spec)).1 = .ok x.id ∧ m.get? x.id = some x ∧
      Since (fun _ op => op.Inserts x.id) x.id [.insert x] ∧
      (m.answer .epoch (.create spec)).2.get? x.id = some (spec.container x.id .epoch) := by
  intro x spec m
  obtain ⟨hexact, -, hcreate⟩ := run_exact [.insert x]
  have hx : m.get? x.id = some x := by decide
  have hid : (m.answer .epoch (.create spec)).1 = .ok x.id := by decide +kernel
  obtain ⟨-, htaken⟩ := hcreate .epoch spec x.id hid
  refine ⟨hid, hx, htaken.1 (by rw [hx]; exact nofun), ?_⟩
  exact (hexact.created .epoch spec x.id hid x.id).trans (if_pos rfl)

end Memory

end ContainerFleet
