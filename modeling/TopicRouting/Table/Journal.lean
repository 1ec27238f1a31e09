import TopicRouting.Log.Event
import TopicRouting.Table.Error
import TopicRouting.Table.Strategy
import TopicRouting.Topic.Segment

set_option autoImplicit false

namespace TopicRouting.Journal

def entry (level : Level) (message : String) (fields : List (String × FieldValue)) : Event :=
  ⟨level, .table, message, fields⟩

def aboutSegment (level : Level) (message : String) (segment : Segment) : Event :=
  entry level message [("segment", .text segment.text)]

def alreadyConsistent (segment : Segment) : Event :=
  aboutSegment .debug "Value is equivalent, downstream tree already consistent" segment

def optimizationCancelled (segment : Segment) : Event :=
  aboutSegment .debug "Value is not equivalent, cancelling optimization" segment

def childlessRemoved (segment : Segment) : Event :=
  aboutSegment .debug "Removing structural node without children" segment

def collapsed (segment : Segment) : Event :=
  aboutSegment .debug "All children are equivalent, collapsing" segment

def routeWithdrawn (segment : Segment) : Event :=
  aboutSegment .warn
    "More specific routes disagree under the new comparator, withdrawing route" segment

def rootAdded (slot : Nat) (segment : Segment) : Event :=
  entry .debug "Root node added" [("slot", .number slot), ("segment", .text segment.text)]

def rootRemoved (segment : Segment) : Event :=
  aboutSegment .debug "Root node decommissioned" segment

def literalRefreshed (key : String) : Event :=
  entry .warn "Found existing literal route, setting new value" [("key", .text key)]

def routeSet (key : String) (roots dynamic : Nat) : Event :=
  entry .debug "Route set"
    [("key", .text key), ("added_roots", .number roots), ("added_dynamic_nodes", .number dynamic)]

def routeRejected (key : String) (error : RouteError) : Event :=
  entry .error "Rejecting route" [("key", .text key), ("error", .text error.message)]

def routeRemoved (key : String) (routes : Nat) : Event :=
  entry .debug "Route removed" [("key", .text key), ("removed_routes", .number routes)]

def valueRemoved (routes : Nat) : Event :=
  entry .info "Removed all routes for value" [("removed_routes", .number routes)]

def comparatorReplaced (nodes : Nat) : Event :=
  entry .debug "Value comparator replaced" [("nodes", .number nodes)]

def strategyChanged (old new : Strategy) : Event :=
  entry .info "Routing strategy changed" [("from", .text old.name), ("to", .text new.name)]

def expressionGenerated (path : String) : Event :=
  entry .debug "Generated quick match expression" [("path", .text path)]

def cacheRebuilt (entries : Nat) : Event :=
  entry .debug "Quick-match cache rebuilt" [("entries", .number entries)]

def note (message : String) : Event :=
  entry .info message []

end TopicRouting.Journal
