import TopicRouting.Table.Strategy
import TopicRouting.Topic.Key

set_option autoImplicit false

namespace TopicRouting

structure TableConfig where
  rootCapacity : Nat := 100
  -- Keys of this many bytes or more are refused.
  maxKeyLength : Nat := 512
  quickMatchCapacity : Nat := 100
  literalMarker : Char := '_'
  strategy : Strategy := .quickCache
  rootCapacity_pos : 0 < rootCapacity := by decide
  one_lt_maxKeyLength : 1 < maxKeyLength := by decide
  literalMarker_ne_separator : literalMarker ≠ separator := by decide
deriving DecidableEq, Repr

inductive ConfigFault where
  | noRoots
  | noKeys
  | markerIsSeparator
deriving DecidableEq, Repr

def ConfigFault.message : ConfigFault → String
  | .noRoots => "Root capacity must be greater than 0"
  | .noKeys => "Maximum key length must be at least 2"
  | .markerIsSeparator => "Literal marker cannot be the token separator"

namespace TableConfig

def withRootCapacity (config : TableConfig) (capacity : Nat) : Except ConfigFault TableConfig :=
  if h : 0 < capacity then .ok { config with rootCapacity := capacity, rootCapacity_pos := h }
  else .error .noRoots

def withMaxKeyLength (config : TableConfig) (length : Nat) : Except ConfigFault TableConfig :=
  if h : 1 < length then .ok { config with maxKeyLength := length, one_lt_maxKeyLength := h }
  else .error .noKeys

def withQuickMatchCapacity (config : TableConfig) (capacity : Nat) : TableConfig :=
  { config with quickMatchCapacity := capacity }

def withLiteralMarker (config : TableConfig) (marker : Char) : Except ConfigFault TableConfig :=
  if h : marker ≠ separator then
    .ok { config with literalMarker := marker, literalMarker_ne_separator := h }
  else .error .markerIsSeparator

def withStrategy (config : TableConfig) (strategy : Strategy) : TableConfig :=
  { config with strategy := strategy }

def keyRules (config : TableConfig) : KeyRules :=
  ⟨config.maxKeyLength, config.literalMarker⟩

end TableConfig

end TopicRouting
