import ContainerFleet.Drift.Report
import ContainerFleet.Engine.Response
import ContainerFleet.Proofs.Age
import ContainerFleet.Proofs.Dict
import ContainerFleet.Proofs.EngineRequest

namespace ContainerFleet

namespace Engine

open Data (record? int?)

/-- An entry of a listing gives a number as the second of its creation, under the name or at its place. -/
inductive GivesCreated (n : Int) : Data → Prop where
  | named {fields : List (String × Data)} (field : ("Created", .int n) ∈ fields) :
      GivesCreated n (.table fields)
  | placed {items : List Data} (item : items[3]? = some (.int n)) : GivesCreated n (.list items)

variable {d : Data} {r r' : Response} {x x' : Summary} {n n' : Int}

theorem GivesCreated.record {id image status created labels : Option Data} (hn : GivesCreated n d)
    (h : d.record? ["Id", "Image", "Status", "Created", "Labels"] true =
      some [id, image, status, created, labels]) : created = some (.int n) := by
  cases hn with
  | @named fields field =>
    rw [record?] at h
    split at h
    · rename_i hnames
      have hsingle := List.all_eq_true.1 (Bool.and_eq_true_iff.1 hnames).1 "Created" (by simp)
      have hvalue := congrArg (·[3]?) (Option.some.inj h)
      exact (Option.some.inj hvalue).symm.trans (Dict.lookup_of_single (of_decide_eq_true hsingle) field)
    · cases h
  | @placed items item =>
    rw [record?] at h
    split at h
    · have hvalue := congrArg (·[3]?) (Option.some.inj h)
      have hlen : 3 < items.length := (List.getElem?_eq_some_iff.1 item).1
      simp only [List.getElem?_append_left, List.length_map, hlen, List.getElem?_map, item] at hvalue
      exact (Option.some.inj hvalue).symm
    · cases h

theorem created_of_summary (h : summary? d = some x) (hn : GivesCreated n d) :
    x.created = instant n := by
  simp only [summary?, Option.bind_eq_bind, Option.bind_eq_some_iff] at h
  obtain ⟨values, hvalues, h⟩ := h
  split at h
  · rename_i id image status created labels
    obtain rfl := hn.record hvalues
    simp only [Option.bind_eq_some_iff] at h
    obtain ⟨_, -, _, -, _, -, s, hs, _, -, hx⟩ := h
    obtain rfl := Option.some.inj hx
    rw [Data.optional, int?] at hs
    split at hs
    · exact congrArg instant (Option.some.inj hs).symm
    · cases hs
  · cases h

theorem instant_eq (n : Int) : instant n =
    if Timestamp.firstSecond ≤ n ∧ n ≤ Timestamp.lastSecond then .ofSecs n else .epoch := by
  unfold instant Timestamp.ofSecs?
  split <;> rfl

/-- What is created in the future is past its grace just if the calendar does not reach it and the epoch
is past the grace. -/
theorem isPastGrace_instant {now : Timestamp} {grace : Int} (hg : 0 ≤ grace)
    (hn : 0 ≤ (Timestamp.ofSecs n).since now) : isPastGrace (instant n) now grace = true ↔
      Timestamp.lastSecond < n ∧ grace < now.since .epoch := by
  have hfirst : Timestamp.firstSecond = -8334601228800 := rfl
  have hlast : Timestamp.lastSecond = 8210266876799 := rfl
  rw [instant_eq, isPastGrace, decide_eq_true_iff]
  split
  · rw [Timestamp.since_swap]
    omega
  · -- No clock that has reached a second before the calendar has reached the epoch.
    have hpast : n < Timestamp.firstSecond → now.since .epoch ≤ 0 := by
      intro h
      have hsince := Timestamp.since_bounds (t := .ofSecs n) (s := now)
      have hepoch := Timestamp.since_bounds (t := now) (s := .epoch)
      simp only [Timestamp.ofSecs, Timestamp.epoch] at hn hsince hepoch ⊢
      omega
    omega

/-- Two seconds change their order just where one of them is beyond the calendar and the other lies between
it and the epoch. -/
theorem instant_reversed (h : n ≤ n') : (instant n').since (instant n) < 0 ↔
    (0 < n ∧ n ≤ Timestamp.lastSecond ∧ Timestamp.lastSecond < n') ∨
      (n < Timestamp.firstSecond ∧ Timestamp.firstSecond ≤ n' ∧ n' < 0) := by
  have hfirst : Timestamp.firstSecond = -8334601228800 := rfl
  have hlast : Timestamp.lastSecond = 8210266876799 := rfl
  have hleap : ∀ k, (instant k).leap = false := by
    intro k
    rw [instant_eq]
    split <;> rfl
  rw [Timestamp.since_of_not_leap (hleap n') (hleap n), instant_eq, instant_eq]
  split <;> split <;> simp only [Timestamp.ofSecs, Timestamp.epoch] <;> omega

/-- A listing was answered, and the entry of it that gives `n` as the second of its creation was read
as `x`. -/
def Listed (r : Response) (n : Int) (x : Summary) : Prop :=
  ∃ f, ∃ xs : List Summary, ∃ ds, ∃ i : Nat, ∃ d, r.outcome (.list f) = .ok xs ∧
    Json.ofBytes? r.content = some (.list ds) ∧ xs[i]? = some x ∧ ds[i]? = some d ∧ GivesCreated n d

theorem Listed.created (h : Listed r n x) : x.created = instant n := by
  obtain ⟨f, xs, ds, i, d, hxs, hds, hx, hd, hn⟩ := h
  rw [Response.outcome, valued] at hxs
  split at hxs
  · rw [hds, Option.bind_some, Data.list?] at hxs
    split at hxs
    · rename_i ys hys
      obtain rfl := Except.ok.inj hxs
      have hread := getElem?_of_mapM hys i
      rw [hd, hx, Option.bind_some] at hread
      exact created_of_summary hread.symm hn
    · cases hxs
  · cases hxs

/-- A container of a listing that was created in the future is not past its grace, and one that was created
later is not read as older, as long as the calendar reaches the seconds in question. -/
theorem listed_created (h : Listed r n x) :
    (∀ now grace, 0 ≤ grace → 0 ≤ (Timestamp.ofSecs n).since now →
      (isPastGrace x.created now grace = true ↔
        Timestamp.lastSecond < n ∧ grace < now.since .epoch)) ∧
    ∀ r' n' x', Listed r' n' x' → n ≤ n' → (x'.created.since x.created < 0 ↔
      (0 < n ∧ n ≤ Timestamp.lastSecond ∧ Timestamp.lastSecond < n') ∨
        (n < Timestamp.firstSecond ∧ Timestamp.firstSecond ≤ n' ∧ n' < 0)) := by
  refine ⟨fun now grace hg hn => ?_, fun r' n' x' h' hn => ?_⟩
  · rw [h.created]
    exact isPastGrace_instant hg hn
  · rw [h.created, h'.created]
    exact instant_reversed hn

def entry (n : Int) : Data := .table [("Id", .text "c1"), ("Created", .int n)]

def listing (n : Int) : Response :=
  { status := 200, body := Text.Utf8.encode (Json.render (.list [entry n])) }

theorem listed_listing (low : -(Word.count 63 : Int) ≤ n) (high : n ≤ Word.count 63 - 1) :
    ∃ x, Listed (listing n) n x := by
  have hw : (Word.count 63 : Int) ≤ Word.count 64 := by decide
  have hint : (Data.int n).Legible := .int low (by omega)
  have hlegible : (Data.list [entry n]).Legible := by
    refine .list (List.forall_mem_singleton.2 (.table ?_))
    exact List.forall_mem_cons.2 ⟨.text _, List.forall_mem_singleton.2 hint⟩
  have hbody : Json.ofBytes? (listing n).content = some (.list [entry n]) := by
    rw [show (listing n).content = Text.Utf8.encode _ from rfl, Json.ofBytes?_encode,
      Json.parse?_render hlegible]
  have hread : (Data.int n).int? (-Word.count 63) (Word.count 63 - 1) = some n := if_pos ⟨low, high⟩
  have hx : summary? (entry n) = some ⟨"c1", "", none, instant n, .empty⟩ := by
    change (Option.bind ((Data.int n).int? _ _) fun s => _) = _
    rw [hread]
    rfl
  have houtcome : (listing n).outcome (.list {}) = .ok [⟨"c1", "", none, instant n, .empty⟩] := by
    have hsuccess : (listing n).isSuccess = true := rfl
    rw [Response.outcome, valued, if_pos hsuccess, hbody, Option.bind_some, Data.list?, List.mapM_cons, hx]
    rfl
  exact ⟨_, {}, _, _, 0, _, houtcome, hbody, rfl, rfl, .named (by simp)⟩

/-- The last second of 64 bits lies in the future and counts as the epoch. -/
theorem listed_created_far : ∃ x y : Summary,
    Listed (listing 1700000000) 1700000000 x ∧
    Listed (listing 9223372036854775807) 9223372036854775807 y ∧
    let now : Timestamp := .ofSecs 1700000060
    0 ≤ (Timestamp.ofSecs 9223372036854775807).since now ∧
    isPastGrace y.created now 60000000000 = true ∧ y.created.since x.created < 0 := by
  obtain ⟨x, hx⟩ := listed_listing (n := 1700000000) (by decide) (by decide)
  obtain ⟨y, hy⟩ := listed_listing (n := 9223372036854775807) (by decide) (by decide)
  have hnow : 0 ≤ (Timestamp.ofSecs 9223372036854775807).since (.ofSecs 1700000060) := by decide
  refine ⟨x, y, hx, hy, hnow, ?_, ?_⟩
  · exact ((listed_created hy).1 _ _ (by decide) hnow).2 (by decide)
  · exact ((listed_created hx).2 _ _ _ hy (by decide)).2 (by decide)

end Engine

end ContainerFleet
