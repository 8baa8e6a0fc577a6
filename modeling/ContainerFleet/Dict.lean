namespace ContainerFleet

universe u v

/-- A finite map from texts, held in ascending order of its keys. -/
structure Dict (ν : Type u) where
  entries : List (String × ν) := []
  sorted : entries.Pairwise (fun a b => a.1 < b.1) := by simp

namespace Dict

variable {ν : Type u} {μ : Type v}

theorem ext {a b : Dict ν} (h : a.entries = b.entries) : a = b := by
  cases a; cases b; simp_all

instance [DecidableEq ν] : DecidableEq (Dict ν) := fun a b =>
  if h : a.entries = b.entries then isTrue (ext h) else isFalse fun e => h (e ▸ rfl)

instance [Repr ν] : Repr (Dict ν) := ⟨fun d n => reprPrec d.entries n⟩

def empty : Dict ν := {}

instance : Inhabited (Dict ν) := ⟨empty⟩

instance : EmptyCollection (Dict ν) := ⟨empty⟩

def get? (d : Dict ν) (k : String) : Option ν := d.entries.lookup k

def contains (d : Dict ν) (k : String) : Bool := (d.get? k).isSome

def size (d : Dict ν) : Nat := d.entries.length

def isEmpty (d : Dict ν) : Bool := d.entries.isEmpty

def toList (d : Dict ν) : List (String × ν) := d.entries

def keys (d : Dict ν) : List String := d.entries.map (·.1)

def values (d : Dict ν) : List ν := d.entries.map (·.2)

def put (k : String) (v : ν) : List (String × ν) → List (String × ν)
  | [] => [(k, v)]
  | e :: es =>
    if k < e.1 then (k, v) :: e :: es
    else if k = e.1 then (k, v) :: es
    else e :: put k v es

theorem mem_put {k : String} {v : ν} {es : List (String × ν)} {x : String × ν}
    (h : x ∈ put k v es) : x = (k, v) ∨ x ∈ es := by
  induction es with
  | nil => simpa [put] using h
  | cons e es ih =>
    simp only [put] at h
    split at h
    · simpa using h
    · split at h
      · obtain h | h := List.mem_cons.1 h
        · exact .inl h
        · exact .inr (List.mem_cons_of_mem _ h)
      · obtain h | h := List.mem_cons.1 h
        · exact .inr (h ▸ List.mem_cons_self)
        · exact (ih h).imp id (List.mem_cons_of_mem _)

theorem sorted_put {k : String} {v : ν} {es : List (String × ν)}
    (h : es.Pairwise (fun a b => a.1 < b.1)) : (put k v es).Pairwise (fun a b => a.1 < b.1) := by
  induction es with
  | nil => simp [put]
  | cons e es ih =>
    obtain ⟨he, hes⟩ := List.pairwise_cons.1 h
    simp only [put]
    split
    · rename_i hk
      refine List.pairwise_cons.2 ⟨fun x hx => ?_, h⟩
      obtain rfl | hx := List.mem_cons.1 hx
      · exact hk
      · exact String.lt_trans hk (he x hx)
    · split
      · rename_i hk
        exact List.pairwise_cons.2 ⟨fun x hx => by simpa [hk] using he x hx, hes⟩
      · rename_i hlt hne
        refine List.pairwise_cons.2 ⟨fun x hx => ?_, ih hes⟩
        obtain rfl | hx := mem_put hx
        · obtain h' | h' | h' := Std.lt_trichotomy e.1 k
          · exact h'
          · exact absurd h'.symm hne
          · exact absurd h' hlt
        · exact he x hx

def insert (d : Dict ν) (k : String) (v : ν) : Dict ν := ⟨put k v d.entries, sorted_put d.sorted⟩

def filter (p : String → ν → Bool) (d : Dict ν) : Dict ν :=
  ⟨d.entries.filter fun e => p e.1 e.2, d.sorted.filter _⟩

def erase (d : Dict ν) (k : String) : Dict ν := d.filter fun k' _ => k' ≠ k

def map (f : String → ν → μ) (d : Dict ν) : Dict μ :=
  ⟨d.entries.map fun e => (e.1, f e.1 e.2), List.pairwise_map.2 d.sorted⟩

def modify (d : Dict ν) (k : String) (f : ν → ν) : Dict ν :=
  d.map fun k' v => if k' = k then f v else v

/-- Of several values for a key the last counts. -/
def ofList (es : List (String × ν)) : Dict ν := es.foldl (fun d e => d.insert e.1 e.2) empty

def ofKeys (ks : List String) : Dict Unit := ofList (ks.map (·, ()))

end Dict

end ContainerFleet
