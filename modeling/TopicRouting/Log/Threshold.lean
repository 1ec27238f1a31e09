import TopicRouting.Log.Event
import TopicRouting.Text.Blank
import TopicRouting.Text.Decimal

set_option autoImplicit false

namespace TopicRouting

-- The least urgent level that passes; nothing passes under `none`.
abbrev Threshold := Option Level

def Threshold.name : Threshold → String
  | none => "off"
  | some level => level.name

def Threshold.passes (threshold : Threshold) (level : Level) : Bool :=
  threshold.any fun least => level.rank ≤ least.rank

-- Reads a level by name in any case or by number; no text means errors only.
def Threshold.ofName? (name : String) : Option Threshold :=
  match readUnsigned64? name with
  | some 0 => some none
  | some 1 => some (some .error)
  | some 2 => some (some .warn)
  | some 3 => some (some .info)
  | some 4 => some (some .debug)
  | some 5 => some (some .trace)
  | _ =>
    match asciiLower name with
    | "" | "error" => some (some .error)
    | "off" => some none
    | "warn" => some (some .warn)
    | "info" => some (some .info)
    | "debug" => some (some .debug)
    | "trace" => some (some .trace)
    | _ => none

end TopicRouting
