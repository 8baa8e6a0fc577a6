import ContainerFleet.Dict
import ContainerFleet.Id.Tagged
import ContainerFleet.Text.Visible
import ContainerFleet.Time.Duration
import ContainerFleet.Text.Blank

namespace ContainerFleet

structure Settings where
  definitionPath : String := "/etc/dockfleet/fleet.toml"
  /-- The identity that containers are labelled with; without one each process makes its own. -/
  owner : Option FleetId := none
  sweepEvery : Duration := .ofSecs 300
  /-- The age up to which a container may still get its node. -/
  grace : Duration := .ofSecs 60
  clientIdle : Duration := .ofSecs 300
  workers : Nat := 8
  /-- How long a fault takes a cloud out of use. -/
  outageFor : Duration := .ofMillis 300000
  reapEvery : Duration := .ofSecs 60
  dryRun : Bool := false
deriving DecidableEq, Repr

/-- A setting that is refused. All others fall back to their defaults. -/
inductive SettingsError where
  | owner (text : String) (cause : IdError)
deriving DecidableEq, Repr

namespace Settings

def ownerKey : String := "DOCKFLEET_INSTANCE_ID"

def pathKey : String := "DOCKFLEET_CONFIG"

def sweepKey : String := "DOCKFLEET_WATCHDOG_INTERVAL_SECS"

def graceKey : String := "DOCKFLEET_WATCHDOG_GRACE_SECS"

def idleKey : String := "DOCKFLEET_CLIENT_IDLE_SECS"

def workersKey : String := "DOCKFLEET_PROVISION_WORKERS"

def outageKey : String := "DOCKFLEET_DISABLE_DURATION_MS"

def reapKey : String := "DOCKFLEET_RETENTION_INTERVAL_SECS"

def dryRunKey : String := "DOCKFLEET_DRY_RUN"

def keys : List String :=
  [ownerKey, pathKey, sweepKey, graceKey, idleKey, workersKey, outageKey, reapKey, dryRunKey]

/-- The number that a variable holds, which may stand between blanks; the default if it holds none of
64 bits. -/
def number (env : Dict String) (key : String) (default : Nat) : Nat :=
  (((env.get? key).bind fun s => Text.natural? (Text.trim s)).filter (· < Word.count 64)).getD default

def flag (env : Dict String) (key : String) : Bool :=
  match env.get? key with
  | some s => ["1", "true", "yes"].contains (Text.trim s)
  | none => false

def ownerOf (env : Dict String) : Except SettingsError (Option FleetId) :=
  match env.get? ownerKey with
  | none => .ok none
  | some s =>
    match Id.parse .fleet s with
    | .ok i => .ok (some i)
    | .error e => .error (.owner s e)

/-- Reads the variables of a process. Periods and the number of workers are at least one. -/
def ofEnvironment (env : Dict String) : Except SettingsError Settings :=
  (ownerOf env).map fun owner =>
    let standard : Settings := {}
    { definitionPath := (env.get? pathKey).getD standard.definitionPath
      owner
      sweepEvery := .ofSecs (max (number env sweepKey standard.sweepEvery.secs) 1)
      grace := .ofSecs (number env graceKey standard.grace.secs)
      clientIdle := .ofSecs (max (number env idleKey standard.clientIdle.secs) 1)
      workers := max (number env workersKey standard.workers) 1
      outageFor := .ofMillis (number env outageKey standard.outageFor.millis)
      reapEvery := .ofSecs (max (number env reapKey standard.reapEvery.secs) 1)
      dryRun := flag env dryRunKey }

def maxWorkers : Nat := Word.count 61 - 1

def canStart (s : Settings) : Bool :=
  decide (s.workers ≤ maxWorkers) && decide (0 < s.sweepEvery.nanos) && decide (0 < s.reapEvery.nanos)

end Settings

def SettingsError.message : SettingsError → String
  | owner text cause => "invalid " ++ Settings.ownerKey ++ " " ++ Text.quoted text ++ ": " ++ cause.message

end ContainerFleet
