import ContainerFleet.Time.Duration

namespace ContainerFleet

universe u v w

inductive CacheError where
  | alreadyCached
  | notCheckedOut
deriving DecidableEq, Repr

def CacheError.message (key : String) : CacheError → String
  | alreadyCached => "entry already cached for key " ++ key
  | notCheckedOut => "release without checkout for key " ++ key

structure CacheStats where
  hits : Nat := 0
  misses : Nat := 0
  expirations : Nat := 0
deriving DecidableEq, Repr

inductive CacheEntry (V : Type v) where
  | active (value : V) (usage : Nat)
  | idle (value : V) (since : Duration)
deriving DecidableEq, Repr

namespace CacheEntry

variable {V : Type v}

def value : CacheEntry V → V
  | active value _ | idle value _ => value

def usage : CacheEntry V → Nat
  | active _ usage => usage
  | idle _ _ => 0

def isActive : CacheEntry V → Bool
  | active _ _ => true
  | idle _ _ => false

def isExpired (limit now : Duration) : CacheEntry V → Bool
  | active _ _ => false
  | idle _ since => limit ≤ now - since

end CacheEntry

/-- Values that several holders share. A value that nobody holds is closed once it has been idle for
long enough. -/
structure Cache (K : Type u) (V : Type v) where
  idleFor : Duration
  entries : List (K × CacheEntry V) := []
  stats : CacheStats := {}
deriving DecidableEq, Repr

structure CacheTurn (K : Type u) (V : Type v) (α : Type w) where
  answer : α
  cache : Cache K V
  closed : List (K × V)

namespace Cache

variable {K : Type u} {V : Type v} [DecidableEq K]

def get? (c : Cache K V) (k : K) : Option (CacheEntry V) := c.entries.lookup k

/-- The holders of a value: none if it is not cached, zero if it is idle. -/
def usage? (c : Cache K V) (k : K) : Option Nat := (c.get? k).map (·.usage)

def activeSize (c : Cache K V) : Nat := c.entries.countP (·.2.isActive)

def idleSize (c : Cache K V) : Nat := c.entries.countP (!·.2.isActive)

def expired (c : Cache K V) (now : Duration) : List (K × V) :=
  (c.entries.filter (·.2.isExpired c.idleFor now)).map fun e => (e.1, e.2.value)

def purged (c : Cache K V) (now : Duration) : Cache K V :=
  { c with
    entries := c.entries.filter (!·.2.isExpired c.idleFor now)
    stats := { c.stats with expirations := c.stats.expirations + (c.expired now).length } }

def put (c : Cache K V) (k : K) (e : CacheEntry V) : Cache K V :=
  { c with entries := (k, e) :: c.entries.filter (·.1 ≠ k) }

def hit (c : Cache K V) : Cache K V :=
  { c with stats := { c.stats with hits := c.stats.hits + 1 } }

def miss (c : Cache K V) : Cache K V :=
  { c with stats := { c.stats with misses := c.stats.misses + 1 } }

def purge (c : Cache K V) (now : Duration) : CacheTurn K V Nat :=
  ⟨(c.expired now).length, c.purged now, c.expired now⟩

def checkout (c : Cache K V) (now : Duration) (k : K) : CacheTurn K V (Option V) :=
  let p := c.purged now
  match p.get? k with
  | some e => ⟨some e.value, (p.put k (.active e.value (e.usage + 1))).hit, c.expired now⟩
  | none => ⟨none, p.miss, c.expired now⟩

def store (c : Cache K V) (now : Duration) (k : K) (v : V) :
    CacheTurn K V (Except CacheError Unit) :=
  let p := c.purged now
  if (p.get? k).isSome then ⟨.error .alreadyCached, p, c.expired now⟩
  else ⟨.ok (), p.put k (.active v 1), c.expired now⟩

def givenBack (now : Duration) (v : V) (usage : Nat) : CacheEntry V :=
  if usage ≤ 1 then .idle v now else .active v (usage - 1)

def release (c : Cache K V) (now : Duration) (k : K) :
    CacheTurn K V (Except CacheError Unit) :=
  match c.get? k with
  | some (.active v usage) =>
    let r := c.put k (givenBack now v usage)
    ⟨.ok (), r.purged now, r.expired now⟩
  | _ => ⟨.error .notCheckedOut, c, []⟩

end Cache

end ContainerFleet
