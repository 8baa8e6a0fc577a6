import ContainerFleet.Data.Json
import ContainerFleet.Definition.Reading
import ContainerFleet.Fleet.Status

namespace ContainerFleet

def readEnvironment : IO (Dict String) := do
  let values ← Settings.keys.filterMapM fun k => do
    return (← IO.getEnv k).map (k, ·)
  return Dict.ofList values

def readOctets (path : String) : IO (Option (List UInt8)) := do
  try
    return some (← IO.FS.readBinFile path).toList
  catch _ => return none

def freshOwner : IO FleetId := do
  let octets ← IO.getRandomBytes 16
  return ⟨.ofNat (octets.toList.foldl (fun n b => 256 * n + b.toNat) 0)⟩

def complain (message : String) : IO UInt32 := do
  IO.eprintln ("Error: " ++ message)
  return 1

end ContainerFleet

open ContainerFleet in
def main : IO UInt32 := do
  match Settings.ofEnvironment (← readEnvironment) with
  | .error e => complain e.message
  | .ok s =>
    match Definition.load s.definitionPath (← readOctets s.definitionPath) with
    | .error e => complain ("failed to load fleet definition: " ++ e.message)
    | .ok d =>
      if s.canStart then
        let owner ← match s.owner with
          | some owner => pure owner
          | none => freshOwner
        IO.println (Json.toText (.list ((s.status owner d).map (·.toData))))
        return 0
      else complain "these settings start no fleet"
