import ContainerFleet.Client.Cache
import ContainerFleet.Container.Error
import ContainerFleet.Text.Visible

namespace ContainerFleet

structure ClientKey where
  uri : String
  credentialsId : Option String
  connectTimeout : Duration
  readTimeout : Duration
deriving DecidableEq, Repr

namespace ClientKey

def text (k : ClientKey) : String :=
  let credentials := match k.credentialsId with
    | some c => "Some(" ++ Text.quoted c ++ ")"
    | none => "None"
  "ClientKey \x7b uri: " ++ Text.quoted k.uri ++ ", credentials_id: " ++ credentials ++
    ", connect_timeout: " ++ k.connectTimeout.text ++ ", read_timeout: " ++ k.readTimeout.text ++
    " \x7d"

end ClientKey

/-- A connected client; the serial number tells it from all others. -/
structure Client where
  uri : String
  serial : Nat
deriving DecidableEq, Repr

inductive PoolError where
  | connect (uri : String) (cause : RuntimeError)
  | misuse (key : String) (cause : CacheError)
deriving DecidableEq, Repr

def PoolError.message : PoolError → String
  | connect uri cause => s!"failed to connect to {uri}: {cause.message}"
  | misuse key cause => cause.message key

structure Pool where
  cache : Cache ClientKey Client
  /-- How often a client was to be made. -/
  dialled : Nat := 0
deriving DecidableEq, Repr

namespace Pool

def ofIdle (idleFor : Duration) : Pool := { cache := { idleFor } }

/-- Leases the client of a key. Where one has to be made, `refusal` says why that fails, if it
does. -/
def lease (p : Pool) (now : Duration) (key : ClientKey) (refusal : Option RuntimeError) :
    Except PoolError Client × Pool :=
  let out := p.cache.checkout now key
  match out.answer with
  | some client => (.ok client, { p with cache := out.cache })
  | none =>
    match refusal with
    | some e =>
      (.error (.connect key.uri e), { cache := out.cache, dialled := p.dialled + 1 })
    | none =>
      let client : Client := ⟨key.uri, p.dialled⟩
      let stored := out.cache.store now key client
      (match stored.answer with
        | .ok () => .ok client
        | .error e => .error (.misuse key.text e),
       { cache := stored.cache, dialled := p.dialled + 1 })

def release (p : Pool) (now : Duration) (key : ClientKey) : Except PoolError Unit × Pool :=
  let turn := p.cache.release now key
  (turn.answer.mapError (.misuse key.text), { p with cache := turn.cache })

def purge (p : Pool) (now : Duration) : Nat × Pool :=
  let turn := p.cache.purge now
  (turn.answer, { p with cache := turn.cache })

def purgePeriod (p : Pool) : Duration := ⟨max p.cache.idleFor.nanos 1000000000 / 2⟩

end Pool

end ContainerFleet
