import TopicRouting.Topic.Key

set_option autoImplicit false

namespace TopicRouting

inductive RouteError where
  | invalidKey (key : String) (fault : KeyFault)
  -- The key resolves exactly already.
  | duplicateRoute (key : String)
  -- The key names a branch whose more specific routes lead elsewhere.
  | conflictingRoute (key : String)
  | notFound (key : String)
  | outOfMemory (activity : String)
  | capacityExceeded (capacity : Nat)
deriving DecidableEq, Repr

namespace RouteError

def message : RouteError → String
  | .invalidKey key fault => "Invalid key '" ++ key ++ "': " ++ fault.message
  | .duplicateRoute key => "Route already exists for key: " ++ key
  | .conflictingRoute key => "Key '" ++ key ++ "' has more specific routes to other destinations"
  | .notFound key => "No route found for key: " ++ key
  | .outOfMemory activity => "Out of memory while " ++ activity
  | .capacityExceeded capacity => "Root directory is full (capacity " ++ toString capacity ++ ")"

def key? : RouteError → Option String
  | .invalidKey key _ | .duplicateRoute key | .conflictingRoute key | .notFound key => some key
  | .outOfMemory _ | .capacityExceeded _ => none

def isNotFound : RouteError → Bool
  | .notFound _ => true
  | _ => false

end RouteError

end TopicRouting
