import ContainerFleet.Engine.Exchange
import ContainerFleet.Proofs.EngineRequest
import ContainerFleet.Proofs.HostText
import ContainerFleet.Proofs.UriParts

namespace ContainerFleet

theorem Engine.Request.target_slash (c : Call) :
    (Request.ofCall c).target.toList.head? = some '/' := by
  have hquery (path query : String) (hpath : path.toList.head? = some '/') :
      (withQuery path query).toList.head? = some '/' := by
    rw [withQuery]
    split_ifs
    · exact hpath
    · simp [hpath]
  cases c with
  | list f =>
    rw [target_list]
    exact hquery _ _ (by decide)
  | create s =>
    rw [target_create]
    exact hquery _ _ (by decide)
  | inspect id => simp [Request.ofCall]
  | start id => simp [Request.ofCall]
  | stop id timeout => simp [Request.ofCall]
  | remove id options => simp [Request.ofCall]

theorem Uri.clear_of_readHost {f : Family} {cs : List Char} {host : Host} (h : f.readHost cs = .ok host) :
    host.Clear := by
  rw [Family.readHost] at h
  split_ifs at h
  · exact Host.clear_of_unnamed h
  · exact Host.clear_of_internet h

namespace Endpoint

variable {s scheme : String} {e : Endpoint} {host : Host} {n : Nat}

/-- The part of an address behind `http://` that names a host and a port. -/
def authorityOf (address : String) : List Char :=
  (address.toList.drop 7).takeWhile (!Uri.Family.other.endsAuthority ·)

/-- The port that a client connects to for an address that starts with `http://`: the number behind the last
colon in front of the path. Without one it is 80. -/
def dialled (address : String) : Nat :=
  if ':' ∈ authorityOf address then
    (Text.decimal? ((authorityOf address).reverse.takeWhile (· ≠ ':')).reverse).getD 80
  else 80

theorem endsAuthority_iff {c : Char} :
    Uri.Family.other.endsAuthority c = true ↔ c = '/' ∨ c = '?' ∨ c = '#' := by
  simp [Uri.Family.endsAuthority, Uri.Family.isSlash, or_assoc]

theorem not_endsAuthority (hclear : host.Clear) :
    ∀ c ∈ host.text.toList ++ ':' :: Nat.toDigits 10 n, Uri.Family.other.endsAuthority c = false := by
  intro c hc
  rw [← Bool.not_eq_true, endsAuthority_iff]
  intro hends
  obtain hc | hc := List.mem_append.1 hc
  · have hforbidden : Host.isForbidden c = true := by
      obtain rfl | rfl | rfl := hends <;> simp [Host.isForbidden]
    obtain rfl | rfl | rfl := hclear c hc hforbidden <;> simp at hends
  · obtain rfl | hc := List.mem_cons.1 hc
    · simp at hends
    · have hdigit := Json.isDigit_toDigits n c hc
      obtain rfl | rfl | rfl := hends <;> cases hdigit

theorem authorityOf_port (hclear : host.Clear) {target : String}
    (htarget : ∀ c ∈ target.toList.head?, c = '/') :
    authorityOf ((port host n).base ++ target) = host.text.toList ++ ':' :: Nat.toDigits 10 n := by
  have htext : ((port host n).base ++ target).toList.drop 7 =
      (host.text.toList ++ ':' :: Nat.toDigits 10 n) ++ target.toList := by simp [base]
  have hends : ∀ c ∈ target.toList.head?, (!Uri.Family.other.endsAuthority c) = false := by
    intro c hc
    obtain rfl := htarget c hc
    rw [endsAuthority_iff.2 (.inl rfl), Bool.not_true]
  rw [authorityOf, htext]
  exact Span.takeWhile_append (fun c hc => by rw [not_endsAuthority hclear c hc, Bool.not_false]) hends

theorem dialled_port (hclear : host.Clear) {target : String} (htarget : ∀ c ∈ target.toList.head?, c = '/') :
    dialled ((port host n).base ++ target) = n := by
  have hdigits : ∀ c ∈ (Nat.toDigits 10 n).reverse, decide (c ≠ ':') = true := by
    intro c hc
    have hdigit := Json.isDigit_toDigits n c (List.mem_reverse.1 hc)
    rw [decide_eq_true_eq]
    rintro rfl
    cases hdigit
  have htake : (host.text.toList ++ ':' :: Nat.toDigits 10 n).reverse.takeWhile (· ≠ ':') =
      (Nat.toDigits 10 n).reverse := by
    rw [List.reverse_append, List.reverse_cons, List.append_assoc]
    exact Span.takeWhile_append hdigits (by simp)
  rw [dialled, authorityOf_port hclear htarget, if_pos (by simp), htake, List.reverse_reverse,
    Json.decimal?_toDigits]
  rfl

def served (usual named : Option Nat) : Nat := if named = usual then defaultPort else named.getD defaultPort

theorem parse_port (hs : Uri.HasScheme s scheme) (hscheme : scheme = "tcp" ∨ scheme = "http")
    (h : parse s = .ok e) : ∃ (p : Uri.Parts) (host : Host), p.Spells s ∧ p.name = scheme ∧
      p.family.readHost p.authority.host = .ok host ∧ (∀ n ∈ p.authority.port?, n < 65536) ∧
      e = .port host (served p.family.usualPort p.authority.port?) := by
  rw [parse] at h
  split at h
  next => cases h
  next u hu =>
    obtain rfl := (Uri.parse_scheme hu).unique hs
    have hunix : u.scheme ≠ "unix" := by obtain h | h := hscheme <;> simp [h]
    have hfile : u.scheme ≠ "file" := by obtain h | h := hscheme <;> simp [h]
    rw [ofUri, if_neg hunix, if_pos hscheme] at h
    split at h
    next host hhost =>
      cases h
      obtain ⟨p, hp, hname, hread, hlt, hport⟩ := Uri.parse_parts hu hhost hfile
      refine ⟨p, host, hp, hname, hread, hlt, congrArg (port host) ?_⟩
      rw [hport, served]
      split_ifs <;> rfl
    next => cases h

theorem served_lt {usual named : Option Nat} (h : ∀ n ∈ named, n < 65536) : served usual named < 65536 := by
  rw [served]
  split_ifs
  · decide
  · cases named with
    | none => decide
    | some n => exact h n rfl

theorem served_tcp {p : Uri.Parts} (hname : p.name = "tcp") (named : Option Nat) :
    served p.family.usualPort named = named.getD 2375 := by
  have husual : p.family.usualPort = none := by rw [Uri.Parts.family, hname]; rfl
  rw [husual, served]
  split_ifs with hnone
  · rw [hnone]; rfl
  · rfl

theorem served_http {p : Uri.Parts} (hname : p.name = "http") (named : Option Nat) :
    served p.family.usualPort named = if named = some 80 then 2375 else named.getD 2375 := by
  have husual : p.family.usualPort = some 80 := by rw [Uri.Parts.family, hname]; rfl
  rw [husual, served]
  rfl

/-- The port of an endpoint of a `tcp` or `http` URI. A port that the URI names is dialled and 2375 is where it
names none, but 2375 is also dialled for the port 80 of an `http` URI, so that two of them with one host
and different ports have the same endpoint if these are 80 and 2375. -/
theorem parse_dials (hs : Uri.HasScheme s scheme) (hscheme : scheme = "tcp" ∨ scheme = "http")
    (h : parse s = .ok e) : ∃ (p : Uri.Parts) (host : Host), p.Spells s ∧
      (∀ q : Uri.Parts, q.Spells s → q = p) ∧ p.name = scheme ∧
      p.family.readHost p.authority.host = .ok host ∧ e = .port host (dialled e.base) ∧
      dialled e.base < 65536 ∧
      (∀ c : Call, dialled (e.base ++ (Engine.Request.ofCall c).target) = dialled e.base) ∧
      (p.authority.port? = none → dialled e.base = 2375) ∧
      (∀ n, p.authority.port? = some n →
        dialled e.base = if scheme = "http" ∧ n = 80 then 2375 else n) ∧
      ∀ (t : String) (e' : Endpoint) (q : Uri.Parts) (m n : Nat), parse t = .ok e' → q.Spells t →
        scheme = "http" → q.name = "http" → q.family.readHost q.authority.host = .ok host →
        p.authority.port? = some m → q.authority.port? = some n → m ≠ n →
        (e' = e ↔ m = 80 ∧ n = 2375 ∨ m = 2375 ∧ n = 80) := by
  obtain ⟨p, host, hp, hname, hread, hlt, rfl⟩ := parse_port hs hscheme h
  have hclear : host.Clear := Uri.clear_of_readHost hread
  have hbase (n : Nat) : dialled (port host n).base = n := by
    have hdialled : dialled ((port host n).base ++ "") = n := dialled_port hclear fun c hc => nomatch hc
    rwa [String.append_empty] at hdialled
  refine ⟨p, host, hp, fun q hq => hq.unique hp, hname, hread, by rw [hbase], ?_, fun c => ?_, fun hnone => ?_,
    fun n hn => ?_, ?_⟩
  · rw [hbase]
    exact served_lt hlt
  · rw [hbase]
    refine dialled_port hclear fun x hx => ?_
    rw [Engine.Request.target_slash c] at hx
    exact (Option.some.inj hx).symm
  · rw [hbase, hnone]
    obtain rfl | rfl := hscheme
    · rw [served_tcp hname]; rfl
    · rw [served_http hname]; rfl
  · rw [hbase, hn]
    obtain rfl | rfl := hscheme
    · rw [served_tcp hname]; rfl
    · rw [served_http hname]
      simp
  · rintro t e' q m n ht hq rfl hqname hqread hm hn hne
    obtain ⟨q', host', hq', _, hqread', _, rfl⟩ := parse_port hq.hasScheme (.inr hqname) ht
    obtain rfl := hq'.unique hq
    obtain rfl := Except.ok.inj (hqread'.symm.trans hqread)
    rw [served_http hname, served_http hqname, hm, hn, port.injEq]
    simp only [true_and, Option.some.injEq, Option.getD_some]
    split_ifs <;> omega

def loopback (digits : List Char) : Uri.Parts :=
  ⟨['h', 't', 't', 'p'], ['/', '/'], ⟨[], ['[', ':', ':', '1', ']'], some digits, []⟩, []⟩

theorem loopback_spells {digits : List Char} (htext : (loopback digits).text = Uri.clean s.toList)
    (hdigits : digits.all Char.isDigit = true) : (loopback digits).Spells s := by
  rw [List.all_eq_true] at hdigits
  have hname : (loopback digits).name = "http" := by
    rw [Uri.Parts.name, Text.lowerAscii, String.toList_ofList]
    rfl
  have hfamily : (loopback digits).family = .internet 80 := by rw [Uri.Parts.family, hname]; rfl
  have hends : ∀ c ∈ ['[', ':', ':', '1', ']', ':'] ++ digits,
      (Uri.Family.internet 80).endsAuthority c = false ∧ c ≠ '@' := by
    refine List.forall_mem_append.2 ⟨by simp [Uri.Family.endsAuthority, Uri.Family.isSlash], fun c hc => ?_⟩
    have hdigit := hdigits c hc
    constructor
    · rw [← Bool.not_eq_true]
      intro hends
      simp only [Uri.Family.endsAuthority, Uri.Family.isSlash, Bool.or_eq_true, Bool.and_eq_true,
        decide_eq_true_eq] at hends
      obtain ((rfl | ⟨_, rfl⟩) | rfl) | rfl := hends <;> cases hdigit
    · rintro rfl
      cases hdigit
  have hopen : false = true ↔ Uri.BracketOpen [] := by simp [Uri.not_bracketOpen_nil]
  obtain ⟨hcolons, hclosed⟩ := Uri.hostLength_parts ['[', ':', ':', '1', ']', ':'] hopen
  have hauthority : (loopback digits).authority.Fits :=
    { user_ends := .inl rfl
      user_last := fun hat => (hends '@' (by simpa [loopback, Uri.Authority.portText] using hat)).2 rfl
      host_ne := List.cons_ne_nil _ _
      colons := hcolons
      closed := fun _ => (hclosed.resolve_left (List.cons_ne_nil _ _)).2
      isDigit := fun ds hds => Option.some.inj hds ▸ hdigits
      behind := .inl rfl }
  refine ⟨htext, fun hcolon => ?_, ?_, fun c hc => ?_, fun c hc => by simp [loopback] at hc, hauthority⟩
  · simp [loopback] at hcolon
  · rw [hfamily, if_neg (by simp)]
    simp [loopback, Uri.Family.isSlash]
  · rw [hfamily]
    exact (hends c (by simpa [loopback, Uri.Authority.text, Uri.Authority.portText] using hc)).1

/-- The port 80 is named and 2375 is dialled, as it is where 2375 is named. -/
theorem parse_dials_eighty : ∃ e e', parse "http://[::1]:80" = .ok e ∧ parse "http://[::1]:2375" = .ok e' ∧
    dialled e.base = 2375 ∧ e' = e := by
  have hp : (loopback ['8', '0']).Spells "http://[::1]:80" := loopback_spells (by decide) (by decide)
  have hq : (loopback ['2', '3', '7', '5']).Spells "http://[::1]:2375" :=
    loopback_spells (by decide) (by decide)
  have h : parse "http://[::1]:80" = .ok (.port (.ipv6 [0, 0, 0, 0, 0, 0, 0, 1]) 2375) := by decide
  have h' : parse "http://[::1]:2375" = .ok (.port (.ipv6 [0, 0, 0, 0, 0, 0, 0, 1]) 2375) := by decide
  obtain ⟨p, host, _, hunique, _, hread, _, _, _, _, hport, htwo⟩ := parse_dials hp.hasScheme (.inr rfl) h
  obtain rfl := hunique _ hp
  have hsame := htwo _ _ _ 80 2375 h' hq rfl rfl hread (by decide) (by decide) (by decide)
  exact ⟨_, _, h, h', hport 80 (by decide), hsame.2 (.inl ⟨rfl, rfl⟩)⟩

end Endpoint

end ContainerFleet
