import TopicRouting.Text.Blank

set_option autoImplicit false

namespace TopicRouting

universe u

-- Whether the second value, incoming, may stand for the first, existing.
abbrev Comparator (V : Type u) := V → V → Bool

namespace Comparator

def equality {V : Type u} [DecidableEq V] : Comparator V :=
  fun existing incoming => decide (existing = incoming)

def sameHost : Comparator String := fun existing incoming =>
  existing.toList.takeWhile (· ≠ ':') == incoming.toList.takeWhile (· ≠ ':')

def ignoringCase : Comparator String := sameIgnoringCase

def sameLength : Comparator String := fun existing incoming =>
  existing.utf8ByteSize == incoming.utf8ByteSize

def incomingExtends : Comparator String := fun existing incoming =>
  existing.toList.isPrefixOf incoming.toList

def existingExtends : Comparator String := fun existing incoming =>
  incoming.toList.isPrefixOf existing.toList

def label : String := "ComparatorFn"

def ofName? (name : String) : Option (Comparator String) :=
  match name with
  | "equality" => some equality
  | "always" => some fun _ _ => true
  | "never" => some fun _ _ => false
  | "host" => some sameHost
  | "nocase" => some ignoringCase
  | "length" => some sameLength
  | "incoming_extends" => some incomingExtends
  | "existing_extends" => some existingExtends
  | _ => none

end Comparator

end TopicRouting
