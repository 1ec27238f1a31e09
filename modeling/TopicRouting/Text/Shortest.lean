set_option autoImplicit false

namespace TopicRouting.Shortest

-- A positive rational with the interval of those that round to it, over one denominator.
structure Interval where
  value : Nat
  low : Nat
  high : Nat
  denominator : Nat
  closed : Bool

-- The interval of `mantissa · 2 ^ exponent`; below a power of two the values lie closer.
def Interval.ofBinary (mantissa : Nat) (exponent : Int) (lowest : Bool) : Interval :=
  let scale := Nat.pow 2 exponent.toNat
  { value := 4 * mantissa * scale
    low := (4 * mantissa - (if lowest then 1 else 2)) * scale
    high := (4 * mantissa + 2) * scale
    denominator := 4 * Nat.pow 2 (-exponent).toNat
    closed := mantissa % 2 = 0 }

def Interval.holds (interval : Interval) (scale candidate : Nat) : Bool :=
  if interval.closed then interval.low * scale ≤ candidate && candidate ≤ interval.high * scale
  else interval.low * scale < candidate && candidate < interval.high * scale

def Interval.magnitude (interval : Interval) : Int :=
  if interval.denominator ≤ interval.value then
    (Nat.toDigits 10 (interval.value / interval.denominator)).length
  else
    let shift := (List.range 400).findIdx fun n =>
      interval.denominator ≤ interval.value * Nat.pow 10 n
    1 - (shift : Int)

def Interval.onGrid? (interval : Interval) (power : Int) : Option Nat :=
  let scale := Nat.pow 10 (-power).toNat
  let unit := interval.denominator * Nat.pow 10 power.toNat
  let target := interval.value * scale
  let below := target / unit
  let candidates := [below, below + 1].filter fun n => interval.holds scale (n * unit)
  match candidates with
  | [] => none
  | [n] => some n
  | n :: _ =>
    let past := target - n * unit
    if 2 * past < unit || (2 * past = unit && n % 2 = 0) then some n else some (n + 1)

def Interval.shortest (interval : Interval) : Nat × Int :=
  let magnitude := interval.magnitude
  let found := (List.range 17).findSome? fun n =>
    let power := magnitude - (n + 1 : Nat)
    (interval.onGrid? power).map fun digits => (digits, power)
  found.getD (0, 0)

def positional (digits : Nat) (power : Int) : String :=
  let written := Nat.toDigits 10 digits
  if 0 ≤ power then String.ofList (written ++ List.replicate power.toNat '0')
  else
    let places := power.natAbs
    let padded := List.replicate (places + 1 - written.length) '0' ++ written
    let whole := padded.take (padded.length - places)
    let part := (padded.drop (padded.length - places)).reverse.dropWhile (· = '0')
    String.ofList (if part.isEmpty then whole else whole ++ '.' :: part.reverse)

def text (value : Float) : String :=
  let bits := value.toBits.toNat
  let negative := bits / Nat.pow 2 63 = 1
  let exponent : Nat := bits / Nat.pow 2 52 % Nat.pow 2 11
  let fraction : Nat := bits % Nat.pow 2 52
  let sign := if negative then "-" else ""
  if exponent = 2047 then
    if fraction = 0 then sign ++ "inf" else "NaN"
  else if exponent = 0 && fraction = 0 then sign ++ "0"
  else
    let interval :=
      if exponent = 0 then Interval.ofBinary fraction (-1074) false
      else Interval.ofBinary (Nat.pow 2 52 + fraction) ((exponent : Int) - 1075)
        (fraction = 0 && 1 < exponent)
    let (digits, power) := interval.shortest
    sign ++ positional digits power

end TopicRouting.Shortest
