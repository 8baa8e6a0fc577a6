import ContainerFleet.Proofs.Ledger
import ContainerFleet.Proofs.Sighting
import ContainerFleet.Proofs.SweepRun

namespace ContainerFleet

/-- The answer to a wait is one that the caller was told, if it is for a call. -/
def Wait.Heard (told : (call : Call) → call.Outcome → Prop) : (w : Wait) → w.Answer → Prop
  | .call _ c, a => told c a
  | _, _ => True

theorem Wait.Heard.mono {told told' : (call : Call) → call.Outcome → Prop} {w : Wait} {a : w.Answer}
    (h : w.Heard told a) (ht : ∀ call b, told call b → told' call b) : w.Heard told' a := by
  cases w with
  | call uri c => exact ht c a h
  | _ => trivial

namespace CloudSweep

variable {f : Fleet} {c : Cloud} {nodes : Registry} {s : State} {m : Moment}
  {told told' : (call : Call) → call.Outcome → Prop} {went went' : Moment → Prop}
  {ys : List Sighting} {rest : List Summary} {report : SweepReport}

structure Examined (f : Fleet) (c : Cloud) (told : (call : Call) → call.Outcome → Prop)
    (ys : List Sighting) (rest : List Summary) : Prop where
  listed : told (.list (ownFilter f c)) (.ok (ys.map (·.summary) ++ rest))
  inspected : ∀ y ∈ ys, ∀ a, y.answer = some a → told (.inspect y.id) a
  status : ∀ y ∈ ys, y.answer.isSome = y.summary.status.isSome

def verdict (f : Fleet) (c : Cloud) (nodes : Registry) (now : Timestamp) (ys : List Sighting) :
    SweepReport :=
  let drift := Drift.between (Findings.of ys).map (live c nodes) now (graceSpan f.grace)
  { mapped := (Findings.of ys).map.size
    skipped := (Findings.of ys).skipped
    inGrace := drift.inGrace.map (·.id)
    stale := drift.stale
    ignored := (Findings.of ys).ignored }

/-- The container stands for no node that was live, and was older than the grace. -/
def Doomed (f : Fleet) (c : Cloud) (nodes : Registry) (now : Timestamp) (ys : List Sighting)
    (id : String) : Prop :=
  ∃ y ∈ ys, ∃ name, y.id = id ∧ y.node? = some name ∧ isLive c nodes name = false ∧
    graceSpan f.grace < now.since y.summary.created

def SameFindings (report verdict : SweepReport) : Prop :=
  ∃ removed removalFailures, report = { verdict with removed, removalFailures }

/-- Where the sweep of a cloud can be that was told certain answers and went on at certain moments. -/
inductive Course (f : Fleet) (c : Cloud) (nodes : Registry)
    (told : (call : Call) → call.Outcome → Prop) (went : Moment → Prop) :
    Progress Phase Result → Prop where
  | starting : Course f c nodes told went (.wait .starting)
  | listing : Course f c nodes told went (.wait .listing)
  | inspecting {ys : List Sighting} {x : Summary} {status : String} {rest : List Summary}
      (examined : Examined f c told ys (x :: rest)) (hasStatus : x.status = some status) :
      Course f c nodes told went (.wait (.inspecting x status rest (Findings.of ys)))
  | removing {ys : List Sighting} {m : Moment} {r : Removal} {p : Removal.Phase}
      {rest : List Removal} {report : SweepReport} (examined : Examined f c told ys [])
      (compared : went m) (due : ∀ r' ∈ r :: rest, Doomed f c nodes m.wall ys r'.id)
      (found : SameFindings report (verdict f c nodes m.wall ys)) :
      Course f c nodes told went (.wait (.removing r p rest report))
  | failed {e : SweepError} : Course f c nodes told went (.done (.error e))
  | swept {ys : List Sighting} {m : Moment} {report : SweepReport}
      (examined : Examined f c told ys []) (compared : went m)
      (found : SameFindings report (verdict f c nodes m.wall ys)) :
      Course f c nodes told went (.done (.ok report))

theorem Examined.mono (h : Examined f c told ys rest) (ht : ∀ call a, told call a → told' call a) :
    Examined f c told' ys rest :=
  ⟨ht _ _ h.listed, fun y hy a ha => ht _ _ (h.inspected y hy a ha), h.status⟩

theorem Course.mono {p : Progress Phase Result} (h : Course f c nodes told went p)
    (ht : ∀ call a, told call a → told' call a) (hw : ∀ m, went m → went' m) :
    Course f c nodes told' went' p := by
  cases h with
  | starting => exact .starting
  | listing => exact .listing
  | inspecting examined hasStatus => exact .inspecting (examined.mono ht) hasStatus
  | removing examined compared due found => exact .removing (examined.mono ht) (hw _ compared) due found
  | failed => exact .failed
  | swept examined compared found => exact .swept (examined.mono ht) (hw _ compared) found

theorem Examined.concat {x : Summary} {a : Option (Except RuntimeError Details)}
    (h : Examined f c told ys (x :: rest)) (ha : a.isSome = x.status.isSome)
    (ht : ∀ b, a = some b → told (.inspect x.id) b) : Examined f c told (ys ++ [⟨x, a⟩]) rest := by
  refine ⟨by simpa using h.listed, fun y hy b hb => ?_, fun y hy => ?_⟩
  · obtain hy | hy := List.mem_append.1 hy
    · exact h.inspected y hy b hb
    · obtain rfl := List.mem_singleton.1 hy
      exact ht b hb
  · obtain hy | hy := List.mem_append.1 hy
    · exact h.status y hy
    · obtain rfl := List.mem_singleton.1 hy
      exact ha

theorem removeNext_course {rs : List Removal} (h : Examined f c told ys []) {m₀ : Moment}
    (hw : went m₀) (hd : ∀ r ∈ rs, Doomed f c nodes m₀.wall ys r.id)
    (hr : SameFindings report (verdict f c nodes m₀.wall ys)) :
    Course f c nodes told went (removeNext c s m report rs).progress := by
  cases rs with
  | nil => exact .swept h hw hr
  | cons r rs => exact .removing h hw hd hr

theorem classify_course (h : Examined f c told ys []) (hw : went m) :
    Course f c nodes told went (classify f c nodes s m (Findings.of ys)).progress := by
  refine removeNext_course h hw (fun r hr => ?_) ⟨[], [], rfl⟩
  obtain ⟨x, hx, rfl⟩ := List.mem_map.1 hr
  obtain ⟨y, hy, name, hid, hy'⟩ := exists_of_mem_orphans (mirrors_of ys) hx
  exact ⟨y, Sighting.matched_subset ys hy, name, hid.symm, hy'⟩

theorem inspectNext_course (h : Examined f c told ys rest) (hw : went m) :
    Course f c nodes told went (inspectNext f c nodes s m (Findings.of ys) rest).progress := by
  induction rest generalizing ys with
  | nil => exact classify_course h hw
  | cons x rest ih =>
    simp only [inspectNext]
    split
    · rename_i status hs
      exact .inspecting h hs
    · -- A container without a status is not inspected.
      rename_i hs
      have hnext : Examined f c told (ys ++ [⟨x, none⟩]) rest :=
        h.concat (by simp [hs]) fun b hb => by cases hb
      have hnote : Findings.of (ys ++ [⟨x, none⟩]) =
          { Findings.of ys with
            map := (Findings.of ys).map.skip x.id
            skipped := (Findings.of ys).skipped ++ [(x.id, .missingStatus)] } := by
        rw [Findings.of_concat, Findings.note, hs]
        rfl
      rw [← hnote]
      exact ih hnext

theorem resume_course {p : Phase} (h : Course f c nodes told went (.wait p))
    {a : (wait f c p).Answer} (ha : (wait f c p).Heard told a) (hw : went m) :
    Course f c nodes told went (resume f c nodes s m p a).progress := by
  cases h with
  | starting =>
    simp only [resume, start]
    split
    · exact .failed
    · exact .listing
  | listing =>
    cases a with
    | error e => exact .failed
    | ok xs =>
      have hnone : Examined f c told [] xs := ⟨ha, by simp, by simp⟩
      exact inspectNext_course hnone hw
  | @inspecting ys x status rest examined hasStatus =>
    have hnote : Findings.of (ys ++ [⟨x, some a⟩]) = correlate (Findings.of ys) x status a := by
      rw [Findings.of_concat, Findings.note, hasStatus]
    have hnext : Examined f c told (ys ++ [⟨x, some a⟩]) rest := by
      refine examined.concat (by simp [hasStatus]) fun b hb => ?_
      obtain rfl := Option.some.inj hb
      exact ha
    simp only [resume]
    rw [← hnote]
    exact inspectNext_course hnext hw
  | @removing ys m₀ r p rest report examined compared due found =>
    obtain ⟨removed, removalFailures, rfl⟩ := found
    simp only [resume, remove]
    split
    · exact .removing examined compared due ⟨_, _, rfl⟩
    · exact removeNext_course examined compared (fun r hr => due r (List.mem_cons_of_mem _ hr))
        ⟨_, _, rfl⟩
    · exact removeNext_course examined compared (fun r hr => due r (List.mem_cons_of_mem _ hr))
        ⟨_, _, rfl⟩

end CloudSweep

end ContainerFleet
