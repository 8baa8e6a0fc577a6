import ContainerFleet.Definition.Basic
import ContainerFleet.Fleet.State
import ContainerFleet.Settings

namespace ContainerFleet

structure TemplateStatus where
  name : TemplateName
  disabled : String
  inProgress : Nat
deriving DecidableEq, Repr

structure CloudStatus where
  name : CloudName
  disabled : String
  inProgress : Nat
  templates : List TemplateStatus
deriving DecidableEq, Repr

def TemplateStatus.toData (t : TemplateStatus) : Data :=
  .table [("name", t.name.toData), ("disabled", .text t.disabled),
    ("in_progress", .nat t.inProgress)]

def CloudStatus.toData (c : CloudStatus) : Data :=
  .table [("name", c.name.toData), ("disabled", .text c.disabled),
    ("in_progress", .nat c.inProgress), ("templates", .list (c.templates.map (·.toData)))]

def Fleet.status (f : Fleet) (s : State) (now : Duration) : List CloudStatus :=
  f.clouds.map fun c =>
    { name := c.name
      disabled := (s.cloudAvailability c).text now
      inProgress := s.capacity.inProgress c.name.text none
      templates := c.templates.map fun t =>
        { name := t.name
          disabled := (s.templateAvailability ⟨c, t⟩).text now
          inProgress := s.capacity.inProgress c.name.text (some t.name.text) } }

namespace Settings

def fleet (s : Settings) (owner : FleetId) (d : Definition) : Fleet :=
  { owner, clouds := d.build, outageFor := s.outageFor, grace := s.grace }

def initialState (s : Settings) : State := .initial s.clientIdle s.workers

def status (s : Settings) (owner : FleetId) (d : Definition) : List CloudStatus :=
  (s.fleet owner d).status s.initialState .zero

end Settings

end ContainerFleet
