import ContainerFleet.Proofs.Span
import ContainerFleet.Uri.Basic
import Mathlib.Data.List.Basic
import Mathlib.Data.List.Induction
import Mathlib.Tactic.SplitIfs

namespace ContainerFleet.Uri

def BracketOpen (cs : List Char) : Prop := ∃ x y, cs = x ++ '[' :: y ∧ ']' ∉ y

theorem not_bracketOpen_nil : ¬ BracketOpen [] := by
  rintro ⟨x, y, h, _⟩
  simp at h

theorem bracketOpen_append_singleton {cs : List Char} {c : Char} :
    BracketOpen (cs ++ [c]) ↔ c = '[' ∨ BracketOpen cs ∧ c ≠ ']' := by
  constructor
  · rintro ⟨x, y, h, hy⟩
    cases y using List.reverseRecOn with
    | nil =>
      obtain ⟨_, hc⟩ := List.append_inj' h rfl
      exact .inl (List.head_eq_of_cons_eq hc)
    | append_singleton y d =>
      rw [← List.cons_append, ← List.append_assoc] at h
      obtain ⟨rfl, hc⟩ := List.append_inj' h rfl
      obtain rfl := List.head_eq_of_cons_eq hc
      rw [List.mem_append, List.mem_singleton, not_or] at hy
      exact .inr ⟨⟨x, y, rfl, hy.1⟩, Ne.symm hy.2⟩
  · rintro (rfl | ⟨⟨x, y, rfl, hy⟩, hc⟩)
    · exact ⟨cs, [], rfl, List.not_mem_nil⟩
    · refine ⟨x, y ++ [c], by simp, ?_⟩
      rw [List.mem_append, List.mem_singleton, not_or]
      exact ⟨hy, Ne.symm hc⟩

/-- What stands between the slashes and the path of a URI. -/
@[ext]
structure Authority where
  /-- A user and the sign that ends it, or nothing. -/
  user : List Char
  host : List Char
  /-- What follows a colon behind the host. -/
  digits : Option (List Char)
  /-- A backslash that ends the digits, and what follows it. -/
  more : List Char
deriving DecidableEq, Repr

namespace Authority

def portText (a : Authority) : List Char :=
  match a.digits with
  | some ds => ':' :: ds
  | none => []

def text (a : Authority) : List Char := a.user ++ (a.host ++ (a.portText ++ a.more))

def port? (a : Authority) : Option Nat := a.digits.bind Text.decimal?

structure Fits (a : Authority) : Prop where
  user_ends : a.user = [] ∨ a.user.getLast? = some '@'
  user_last : '@' ∉ a.host ++ (a.portText ++ a.more)
  host_ne : a.host ≠ []
  /-- All colons of a host stand in brackets. -/
  colons : ∀ x y, a.host = x ++ ':' :: y → BracketOpen x
  closed : a.digits ≠ none → ¬ BracketOpen a.host
  isDigit : ∀ ds ∈ a.digits, ∀ c ∈ ds, c.isDigit = true
  behind : a.more = [] ∨ a.digits ≠ none ∧ a.more.head? = some '\\'

variable {a b : Authority}

theorem Fits.portText_head? (h : a.Fits) :
    a.portText ++ a.more = [] ∨ ¬ BracketOpen a.host ∧ (a.portText ++ a.more).head? = some ':' := by
  cases hd : a.digits with
  | none =>
    have hmore : a.more = [] := h.behind.resolve_right fun hm => hm.1 hd
    simp [portText, hd, hmore]
  | some ds => exact .inr ⟨h.closed (by simp [hd]), by simp [portText, hd]⟩

theorem Fits.user_stops (h : a.Fits) {x z : List Char} (hx : a.user = x ++ z)
    (hz : '@' ∉ z) : z = [] := by
  by_contra hne
  have hlast : a.user.getLast? = z.getLast? := by rw [hx, List.getLast?_append_of_ne_nil x hne]
  obtain hnil | hat := h.user_ends
  · exact hne (List.append_eq_nil_iff.1 (hx.symm.trans hnil)).2
  · exact hz (List.mem_of_getLast? (hlast.symm.trans hat))

theorem Fits.host_stops (h : a.Fits) {x z t : List Char} (hx : a.host = x ++ z)
    (ht : z ++ t = [] ∨ ¬ BracketOpen x ∧ (z ++ t).head? = some ':') : z = [] := by
  cases z with
  | nil => rfl
  | cons c z =>
    obtain ⟨hclosed, hc⟩ := ht.resolve_left (by simp)
    obtain rfl : c = ':' := by simpa using hc
    exact absurd (h.colons x z hx) hclosed

theorem Fits.port_unique (ha : a.Fits) (hb : b.Fits)
    (h : a.portText ++ a.more = b.portText ++ b.more) : a.digits = b.digits ∧ a.more = b.more := by
  have hmore {a : Authority} (ha : a.Fits) : ∀ c ∈ a.more.head?, c.isDigit = false := by
    obtain hnil | ⟨_, hc⟩ := ha.behind
    · simp [hnil]
    · simp [hc]
  cases hda : a.digits with
  | none =>
    have hnil : a.more = [] := ha.behind.resolve_right fun hm => hm.1 hda
    cases hdb : b.digits with
    | none => simpa [portText, hda, hdb] using h
    | some es => simp [portText, hda, hdb, hnil] at h
  | some ds =>
    cases hdb : b.digits with
    | none =>
      have hnil : b.more = [] := hb.behind.resolve_right fun hm => hm.1 hdb
      simp [portText, hda, hdb, hnil] at h
    | some es =>
      have h : ds ++ a.more = es ++ b.more := by simpa [portText, hda, hdb] using h
      obtain ⟨rfl, hrest⟩ := Span.unique (ha.isDigit ds hda) (hb.isDigit es hdb) (hmore ha) (hmore hb) h
      exact ⟨rfl, hrest⟩

theorem Fits.unique (ha : a.Fits) (hb : b.Fits) (h : a.text = b.text) : a = b := by
  have huser : a.user = b.user ∧
      a.host ++ (a.portText ++ a.more) = b.host ++ (b.portText ++ b.more) := by
    obtain ⟨z, hz, hrest⟩ | ⟨z, hz, hrest⟩ := List.append_eq_append_iff.1 h
    · have hat : '@' ∉ z := fun hm => ha.user_last (hrest ▸ List.mem_append_left _ hm)
      obtain rfl := hb.user_stops hz hat
      exact ⟨by simpa using hz.symm, hrest⟩
    · have hat : '@' ∉ z := fun hm => hb.user_last (hrest ▸ List.mem_append_left _ hm)
      obtain rfl := ha.user_stops hz hat
      exact ⟨by simpa using hz, hrest.symm⟩
  have hhost : a.host = b.host ∧ a.portText ++ a.more = b.portText ++ b.more := by
    obtain ⟨z, hz, hrest⟩ | ⟨z, hz, hrest⟩ := List.append_eq_append_iff.1 huser.2
    · obtain rfl := hb.host_stops hz (hrest ▸ ha.portText_head?)
      exact ⟨by simpa using hz.symm, hrest⟩
    · obtain rfl := ha.host_stops hz (hrest ▸ hb.portText_head?)
      exact ⟨by simpa using hz, hrest.symm⟩
  obtain ⟨hdigits, hmore⟩ := ha.port_unique hb hhost.2
  exact Authority.ext huser.1 hhost.1 hdigits hmore

end Authority

/-- A URI with a host, in the order in which its parts are written. -/
@[ext]
structure Parts where
  scheme : List Char
  slashes : List Char
  authority : Authority
  rest : List Char
deriving DecidableEq, Repr

namespace Parts

def text (p : Parts) : List Char := p.scheme ++ ':' :: (p.slashes ++ (p.authority.text ++ p.rest))

def name (p : Parts) : String := Text.lowerAscii (String.ofList p.scheme)

def family (p : Parts) : Family := .ofScheme p.name

structure Fits (p : Parts) : Prop where
  scheme_ends : ':' ∉ p.scheme
  slashes : if p.family = .other then p.slashes = ['/', '/'] else ∀ c ∈ p.slashes, p.family.isSlash c = true
  inside : ∀ c ∈ p.authority.text, p.family.endsAuthority c = false
  behind : ∀ c ∈ p.rest.head?, p.family.endsAuthority c = true
  authority : p.authority.Fits

/-- The parts of the text `s`, less what does not count in it. -/
def Spells (p : Parts) (s : String) : Prop := p.text = clean s.toList ∧ p.Fits

variable {p q : Parts} {s : String}

theorem Fits.isSlash_head? (h : p.Fits) :
    ∀ c ∈ (p.authority.text ++ p.rest).head?, p.family.isSlash c = false := by
  have hne : p.authority.text ≠ [] := by simp [Authority.text, h.authority.host_ne]
  rw [List.head?_append_of_ne_nil _ hne]
  intro c hc
  have hin := h.inside c (List.mem_of_head? hc)
  simp only [Family.endsAuthority, Bool.or_eq_false_iff] at hin
  exact hin.1.1

theorem Spells.unique (hp : p.Spells s) (hq : q.Spells s) : p = q := by
  obtain ⟨hptext, hp⟩ := hp
  obtain ⟨hqtext, hq⟩ := hq
  obtain ⟨hscheme, hrest⟩ := Span.unique_at hp.scheme_ends hq.scheme_ends (hptext.trans hqtext.symm)
  have hfamily : p.family = q.family := by rw [family, family, name, name, hscheme]
  have hqslashes := hq.slashes
  have hqhead := hq.isSlash_head?
  have hqinside := hq.inside
  have hqbehind := hq.behind
  rw [← hfamily] at hqslashes hqhead hqinside hqbehind
  have hslashes : p.slashes = q.slashes ∧ p.authority.text ++ p.rest = q.authority.text ++ q.rest := by
    have hpslashes := hp.slashes
    split_ifs at hpslashes hqslashes with hother
    · rw [hpslashes, hqslashes] at hrest
      exact ⟨hpslashes.trans hqslashes.symm, List.append_cancel_left hrest⟩
    · exact Span.unique hpslashes hqslashes hp.isSlash_head? hqhead hrest
  obtain ⟨htext, hbehind⟩ := Span.unique (p := (!p.family.endsAuthority ·)) (by simpa using hp.inside)
    (by simpa using hqinside) (by simpa using hp.behind) (by simpa using hqbehind) hslashes.2
  exact Parts.ext hscheme hslashes.1 (hp.authority.unique hq.authority htext) hbehind

end Parts

def Family.usualPort : Family → Option Nat
  | .internet n => some n
  | _ => none

def Family.readHost (f : Family) (cs : List Char) : Except UriError Host :=
  if f = .other then Host.unnamed cs else Host.internet cs

variable {cs rest : List Char} {host : Host} {port : Option Nat} {s name : String} {f : Family} {u : Uri}

theorem scheme?_eq_some (h : scheme? cs = some (name, rest)) :
    ∃ x, cs = x ++ ':' :: rest ∧ ':' ∉ x ∧ name = Text.lowerAscii (String.ofList x) := by
  simp only [scheme?, Span.drop_takeWhile] at h
  split at h
  next rest' hdrop =>
    split_ifs at h
    cases h
    refine ⟨_, ?_, fun hm => ?_, rfl⟩
    · rw [← hdrop, List.takeWhile_append_dropWhile]
    · exact absurd (List.mem_takeWhile_imp hm) (by decide)
  next => cases h

theorem splitUser_snd (cs : List Char) :
    (splitUser cs).2 = (cs.reverse.takeWhile (· ≠ '@')).reverse := by
  rw [splitUser]
  split_ifs with hlength
  · have hsuffix : (cs.reverse.takeWhile (· ≠ '@')).reverse <:+ cs := by
      simpa using List.reverse_suffix.2 (List.takeWhile_prefix (p := (· ≠ '@')) (l := cs.reverse))
    exact (hsuffix.eq_of_length hlength).symm
  · rfl

theorem splitUser_parts (cs : List Char) : ∃ user, cs = user ++ (splitUser cs).2 ∧
    '@' ∉ (splitUser cs).2 ∧ (user = [] ∨ user.getLast? = some '@') := by
  refine ⟨(cs.reverse.dropWhile (· ≠ '@')).reverse, ?_, ?_, ?_⟩
  · rw [splitUser_snd, ← List.reverse_append, List.takeWhile_append_dropWhile, List.reverse_reverse]
  · rw [splitUser_snd, List.mem_reverse]
    exact fun hm => absurd (List.mem_takeWhile_imp hm) (by decide)
  · rw [List.getLast?_reverse, List.reverse_eq_nil_iff]
    have hhead : ∀ c ∈ (cs.reverse.dropWhile (· ≠ '@')).head?, decide (c ≠ '@') = false := Span.head?_dropWhile
    cases hd : cs.reverse.dropWhile (· ≠ '@') with
    | nil => exact .inl rfl
    | cons c ds =>
      rw [hd] at hhead
      exact .inr (by simpa using hhead c rfl)

/-- The recursion of `hostLength` behind a text `pre`, whose brackets its flag tells of. -/
theorem hostLength_parts (cs : List Char) {pre : List Char} {b : Bool} (hb : b = true ↔ BracketOpen pre) :
    (∀ x y, cs.take (hostLength b cs) = x ++ ':' :: y → BracketOpen (pre ++ x)) ∧
      (cs.drop (hostLength b cs) = [] ∨ (cs.drop (hostLength b cs)).head? = some ':' ∧
        ¬ BracketOpen (pre ++ cs.take (hostLength b cs))) := by
  induction cs generalizing pre b with
  | nil => simp
  | cons c cs ih =>
    rw [hostLength]
    split_ifs with hends
    · simp only [Bool.and_eq_true, decide_eq_true_eq, Bool.not_eq_true'] at hends
      have hclosed : ¬ BracketOpen pre := fun hopen => by simp [hb.2 hopen] at hends
      simp [hends.1, hclosed]
    · have hb' : (decide (c = '[') || (b && decide (c ≠ ']'))) = true ↔ BracketOpen (pre ++ [c]) := by
        rw [bracketOpen_append_singleton, ← hb]
        simp
      obtain ⟨hcolons, hdrop⟩ := ih hb'
      simp only [List.take_succ_cons, List.drop_succ_cons]
      refine ⟨fun x y hx => ?_, by simpa using hdrop⟩
      cases x with
      | nil =>
        obtain rfl : c = ':' := (List.cons.inj hx).1
        have hopen : BracketOpen pre := hb.1 (by simpa using hends)
        simpa using hopen
      | cons d x =>
        obtain ⟨rfl, htail⟩ := List.cons.inj hx
        simpa using hcolons x y htail

theorem portOf_ok (h : portOf cs = .ok port) : ∃ digits more, cs = digits ++ more ∧
    (∀ c ∈ digits, c.isDigit = true) ∧ (more = [] ∨ more.head? = some '\\') ∧
    Text.decimal? digits = port ∧ ∀ n ∈ port, n < 65536 := by
  refine ⟨cs.takeWhile Char.isDigit, cs.dropWhile Char.isDigit, List.takeWhile_append_dropWhile.symm,
    fun c hc => List.mem_takeWhile_imp hc, ?_⟩
  simp only [portOf, Span.drop_takeWhile] at h
  have hmore : cs.dropWhile Char.isDigit = [] ∨ (cs.dropWhile Char.isDigit).head? = some '\\' := by
    split at h
    next hnil => exact .inl hnil
    next hcons => exact .inr (by rw [hcons]; rfl)
    next => cases h
  refine ⟨hmore, ?_⟩
  cases hd : Text.decimal? (cs.takeWhile Char.isDigit) with
  | none =>
    rw [hd] at h
    split at h <;> cases h <;> simp
  | some n =>
    rw [hd] at h
    simp only at h
    split_ifs at h with hlt
    · split at h <;> cases h <;> simpa using hlt
    · split at h <;> cases h

theorem bind_ok {ε α β : Type} {x : Except ε α} {k : α → Except ε β} {b : β}
    (h : x >>= k = .ok b) : ∃ a, x = .ok a ∧ k a = .ok b := by
  cases x with
  | error e => cases h
  | ok a => exact ⟨a, rfl, h⟩

theorem authority_reads {hostText more : List Char}
    (hhost : (splitUser cs).2.take (hostLength false (splitUser cs).2) = hostText)
    (h : authority f cs rest = .ok (some host, port, more)) :
    hostText ≠ [] ∧ f.readHost hostText = .ok host ∧
      portOf (((splitUser cs).2.drop hostText.length).drop 1) = .ok port := by
  simp only [authority, hhost] at h
  have hne : hostText ≠ [] := by
    rintro rfl
    simp only [List.isEmpty_nil, if_true] at h
    split_ifs at h <;> cases f <;> cases h
  have hnonempty : hostText.isEmpty = false := by simpa using hne
  simp only [hnonempty, Bool.false_eq_true, if_false] at h
  refine ⟨hne, ?_⟩
  split_ifs at h with hfault
  · cases h
  · cases f with
    | other =>
      obtain ⟨host', hread, h⟩ := bind_ok h
      obtain ⟨port', hport, h⟩ := bind_ok h
      cases h
      exact ⟨hread, hport⟩
    | internet n =>
      obtain ⟨host', hread, h⟩ := bind_ok h
      obtain ⟨port', hport, h⟩ := bind_ok h
      cases h
      exact ⟨hread, hport⟩
    | file =>
      obtain ⟨host', hread, h⟩ := bind_ok h
      obtain ⟨port', hport, h⟩ := bind_ok h
      cases h
      exact ⟨hread, hport⟩

theorem authority_ok {more : List Char} (h : authority f cs rest = .ok (some host, port, more)) :
    ∃ a : Authority, a.text = cs ∧ a.Fits ∧ f.readHost a.host = .ok host ∧ a.port? = port ∧
      ∀ n ∈ port, n < 65536 := by
  obtain ⟨user, huser, hlast, hends⟩ := splitUser_parts cs
  obtain ⟨hne, hhost, hport⟩ := authority_reads rfl h
  have hopen : false = true ↔ BracketOpen [] := by simp [not_bracketOpen_nil]
  obtain ⟨hcolons, hbehind⟩ := hostLength_parts (splitUser cs).2 hopen
  simp only [List.nil_append] at hcolons hbehind
  generalize (splitUser cs).2 = after at *
  have hafter := List.take_append_drop (hostLength false after) after
  have hdrop : after.drop (after.take (hostLength false after)).length = after.drop (hostLength false after) :=
    List.append_cancel_left ((List.prefix_iff_eq_append.1 (List.take_prefix _ after)).trans hafter.symm)
  rw [hdrop] at hport
  generalize after.take (hostLength false after) = hostText at *
  generalize after.drop (hostLength false after) = behind at *
  subst huser hafter
  obtain rfl | ⟨hcolon, hclosed⟩ := hbehind
  · refine ⟨⟨user, hostText, none, []⟩, by simp [Authority.text, Authority.portText], ?_, hhost, ?_, ?_⟩
    · exact ⟨hends, by simpa [Authority.portText] using hlast, hne, hcolons, by simp, by simp, .inl rfl⟩
    · cases hport
      rfl
    · cases hport
      exact fun n hn => nomatch hn
  · obtain ⟨t, rfl⟩ := List.head?_eq_some_iff.1 hcolon
    obtain ⟨digits, more, rfl, hdigits, hmore, hvalue, hlt⟩ := portOf_ok hport
    refine ⟨⟨user, hostText, some digits, more⟩, by simp [Authority.text, Authority.portText], ?_, hhost,
      hvalue, hlt⟩
    exact ⟨hends, by simpa [Authority.portText] using hlast, hne, hcolons, fun _ => hclosed,
      fun ds hds => Option.some.inj hds ▸ hdigits, hmore.imp id fun hm => ⟨by simp, hm⟩⟩

theorem afterAuthority_ok {scheme : String} (h : afterAuthority f scheme cs = .ok u)
    (hh : u.host = some host) : ∃ (a : Authority) (rest : List Char), cs = a.text ++ rest ∧ a.Fits ∧
      (∀ c ∈ a.text, f.endsAuthority c = false) ∧ (∀ c ∈ rest.head?, f.endsAuthority c = true) ∧
      f.readHost a.host = .ok host ∧ (∀ n ∈ a.port?, n < 65536) ∧ u.scheme = scheme ∧
      u.port = if a.port? = f.usualPort then none else a.port? := by
  unfold afterAuthority at h
  obtain ⟨⟨host', port, more⟩, hread, h⟩ := bind_ok h
  rw [Span.drop_takeWhile] at hread
  cases h
  obtain rfl : host' = some host := hh
  obtain ⟨a, htext, hfits, hhost, rfl, hlt⟩ := authority_ok hread
  refine ⟨a, cs.dropWhile (!f.endsAuthority ·), ?_, hfits, ?_, ?_, hhost, hlt, rfl, ?_⟩
  · rw [htext, List.takeWhile_append_dropWhile]
  · rw [htext]
    exact fun c hc => by simpa using List.mem_takeWhile_imp hc
  · exact fun c hc => by simpa using Span.head?_dropWhile c hc
  · cases f <;> rfl

theorem ofFile_scheme (h : ofFile cs = .ok u) : u.scheme = "file" := by
  rw [ofFile] at h
  split at h
  · obtain ⟨_, _, h⟩ := bind_ok h
    cases h
    rfl
  · cases h
    rfl

theorem parse_front (h : parse s = .ok u) (hh : u.host = some host) (hfile : u.scheme ≠ "file") :
    ∃ x slashes cs f, clean s.toList = x ++ ':' :: (slashes ++ cs) ∧ ':' ∉ x ∧
      Family.ofScheme (Text.lowerAscii (String.ofList x)) = f ∧
      (if f = .other then slashes = ['/', '/'] else ∀ c ∈ slashes, f.isSlash c = true) ∧
      afterAuthority f (Text.lowerAscii (String.ofList x)) cs = .ok u := by
  rw [parse] at h
  split at h
  next => cases h
  next scheme cs hscheme =>
    obtain ⟨x, hclean, hx, rfl⟩ := scheme?_eq_some hscheme
    cases hf : Family.ofScheme (Text.lowerAscii (String.ofList x)) with
    | file =>
      rw [hf] at h
      exact absurd (ofFile_scheme h) hfile
    | other =>
      simp only [hf, ofOther] at h
      split at h
      next cs => exact ⟨x, ['/', '/'], cs, .other, hclean, hx, hf, rfl, h⟩
      next => cases h; cases hh
      next => cases h; cases hh
    | internet n =>
      simp only [hf] at h
      refine ⟨x, cs.takeWhile (Family.internet n).isSlash, _, _, ?_, hx, hf, ?_, h⟩
      · rw [List.takeWhile_append_dropWhile, hclean]
      · exact fun c hc => List.mem_takeWhile_imp hc

/-- The parser divides a URI with a host into its parts, and reads the host and the port of them. -/
theorem parse_parts (h : parse s = .ok u) (hh : u.host = some host) (hfile : u.scheme ≠ "file") :
    ∃ p : Parts, p.Spells s ∧ p.name = u.scheme ∧ p.family.readHost p.authority.host = .ok host ∧
      (∀ n ∈ p.authority.port?, n < 65536) ∧
      u.port = if p.authority.port? = p.family.usualPort then none else p.authority.port? := by
  obtain ⟨x, slashes, cs, f, hclean, hx, rfl, hslashes, hafter⟩ := parse_front h hh hfile
  obtain ⟨a, rest, rfl, hfits, hin, hbehind, hhost, hlt, hscheme, hport⟩ := afterAuthority_ok hafter hh
  exact ⟨⟨x, slashes, a, rest⟩, ⟨hclean.symm, hx, hslashes, hin, hbehind, hfits⟩, hscheme.symm, hhost, hlt,
    hport⟩

def HasScheme (s name : String) : Prop :=
  ∃ x rest, clean s.toList = x ++ ':' :: rest ∧ ':' ∉ x ∧ Text.lowerAscii (String.ofList x) = name

theorem HasScheme.unique {name' : String} (h : HasScheme s name) (h' : HasScheme s name') : name = name' := by
  obtain ⟨x, rest, hx, hcolon, rfl⟩ := h
  obtain ⟨x', rest', hx', hcolon', rfl⟩ := h'
  obtain ⟨rfl, _⟩ := Span.unique_at hcolon hcolon' (hx.symm.trans hx')
  rfl

theorem Parts.Spells.hasScheme {p : Parts} (h : p.Spells s) : HasScheme s p.name :=
  ⟨p.scheme, _, h.1.symm, h.2.scheme_ends, rfl⟩

theorem afterAuthority_scheme {scheme : String} (h : afterAuthority f scheme cs = .ok u) :
    u.scheme = scheme := by
  unfold afterAuthority at h
  obtain ⟨_, _, h⟩ := bind_ok h
  cases h
  rfl

theorem ofOther_scheme {scheme : String} (h : ofOther scheme cs = .ok u) : u.scheme = scheme := by
  unfold ofOther at h
  split at h
  next => exact afterAuthority_scheme h
  next => cases h; rfl
  next => cases h; rfl

theorem ofScheme_file (h : Family.ofScheme name = .file) : name = "file" := by
  rw [Family.ofScheme] at h
  split_ifs at h with _ _ _ hfile
  exact hfile

theorem parse_scheme (h : parse s = .ok u) : HasScheme s u.scheme := by
  rw [parse] at h
  split at h
  next => cases h
  next scheme cs hscheme =>
    obtain ⟨x, hclean, hx, rfl⟩ := scheme?_eq_some hscheme
    refine ⟨x, cs, hclean, hx, ?_⟩
    split at h
    next hfile => rw [ofScheme_file hfile, ofFile_scheme h]
    next => exact (ofOther_scheme h).symm
    next => exact (afterAuthority_scheme h).symm

end ContainerFleet.Uri
