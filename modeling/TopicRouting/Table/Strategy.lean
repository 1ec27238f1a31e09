import TopicRouting.Text.Blank

set_option autoImplicit false

namespace TopicRouting

inductive Strategy where
  | exhaustive
  | earlyExit
  | quickCache
deriving DecidableEq, Repr, Inhabited

def Strategy.all : List Strategy := [.exhaustive, .earlyExit, .quickCache]

def Strategy.name : Strategy → String
  | .exhaustive => "exhaustive"
  | .earlyExit => "early_exit"
  | .quickCache => "quick_cache"

def Strategy.label : Strategy → String
  | .exhaustive => "Exhaustive"
  | .earlyExit => "EarlyExit"
  | .quickCache => "QuickCache"

def Strategy.ofName? (name : String) : Option Strategy :=
  Strategy.all.find? fun strategy => strategy.name == name

structure UnknownStrategy where
  text : String
deriving DecidableEq, Repr

def UnknownStrategy.message (unknown : UnknownStrategy) : String :=
  "Unknown routing strategy: " ++ unknown.text

def Strategy.parse (text : String) : Except UnknownStrategy Strategy :=
  let name := asciiLower (trimBlanks text)
  if name ∈ ["exhaustive", "normal"] then .ok .exhaustive
  else if name ∈ ["early_exit", "early-exit", "optimization1"] then .ok .earlyExit
  else if name ∈ ["quick_cache", "quick-cache", "optimization2"] then .ok .quickCache
  else .error ⟨text⟩

end TopicRouting
