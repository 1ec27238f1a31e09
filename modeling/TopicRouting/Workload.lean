import TopicRouting.Table.Registration
import TopicRouting.Table.Report

set_option autoImplicit false

namespace TopicRouting.Workload

def topicsPerService : Nat := 4

def serviceTopic (service : Nat) : String :=
  "zone" ++ toString (service % 16) ++ ".svc" ++ toString service ++ "."

def owner (service : Nat) : UInt32 := UInt32.ofNat service

def serviceRoutes (service : Nat) : List (String × UInt32) :=
  (serviceTopic service ++ "events.", owner service) ::
    (List.range topicsPerService).map fun topic =>
      (serviceTopic service ++ "method" ++ toString topic, owner service)

def serviceLookups (service : Nat) : List String :=
  [serviceTopic service ++ "events.changed.value",
    serviceTopic service ++ "method" ++ toString (service % topicsPerService)]

def routes (services : Nat) : List (String × UInt32) :=
  (List.range services).flatMap serviceRoutes

def lookups (services : Nat) : List String :=
  (List.range services).flatMap serviceLookups

def populate (table : Table UInt32) : List (String × UInt32) →
    Except (String × RouteError) (Table UInt32)
  | [] => .ok table
  | (topic, destination) :: rest =>
    let set := table.setRoute topic destination
    match set.result with
    | .error error => .error (topic, error)
    | .ok () => populate set.state rest

def populatedTable (services : Nat) (strategy : Strategy) :
    Except (String × RouteError) (Table UInt32) :=
  populate ((Table.new : Table UInt32).setStrategy strategy).state (routes services)

end TopicRouting.Workload
