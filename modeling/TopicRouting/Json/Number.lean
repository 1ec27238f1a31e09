import TopicRouting.Json.Basic

/-!
The numbers of a JSON text. The digits of a number are gathered in 64 bits; once they no longer
fit, what follows of a whole part only raises the power of ten and what follows of a fraction
does not count. The value is the gathered integer, rounded to a binary one, times or divided by
the power of ten. An integer outside 64 bits and a minus zero count as numbers rather than
integers; a number beyond the largest binary one is refused.
-/

set_option autoImplicit false

namespace TopicRouting.Json

structure WrittenNumber where
  negative : Bool
  whole : List Char
  fraction : Option (List Char)
  exponent : Option Int
deriving DecidableEq, Repr

def readFraction? : List Char → Option (Option (List Char) × List Char)
  | '.' :: rest =>
    let digits := rest.takeWhile Char.isDigit
    if digits.isEmpty then none else some (some digits, rest.dropWhile Char.isDigit)
  | rest => some (none, rest)

def readExponent? : List Char → Option (Option Int)
  | [] => some none
  | c :: rest =>
    if c = 'e' || c = 'E' then (readInteger? (String.ofList rest)).map some else none

def WrittenNumber.read? (text : List Char) : Option WrittenNumber :=
  let (negative, unsigned) := match text with
    | '-' :: rest => (true, rest)
    | rest => (false, rest)
  let whole := unsigned.takeWhile Char.isDigit
  if whole.isEmpty || (1 < whole.length && whole.head? = some '0') then none
  else
    match readFraction? (unsigned.dropWhile Char.isDigit) with
    | none => none
    | some (fraction, rest) =>
      (readExponent? rest).map fun exponent => ⟨negative, whole, fraction, exponent⟩

def gatherDigits (gathered : Nat) : List Char → Nat × List Char
  | [] => (gathered, [])
  | c :: rest =>
    let next := 10 * gathered + (c.toNat - '0'.toNat)
    if next < limit64 then gatherDigits next rest else (gathered, c :: rest)

def powerOfTen (n : Nat) : Float := Float.ofScientific 1 false n

def greatestPower : Nat := 308

-- A binary number times a power of ten, one multiplication or division at a time. No value of
-- 64 bits outlasts two divisions by the greatest power.
def scaleByTen : (steps : Nat) → Float → Int → Option Float
  | 0, value, _ => some value
  | steps + 1, value, power =>
    if power.natAbs ≤ greatestPower then
      let scaled :=
        if 0 ≤ power then value * powerOfTen power.natAbs else value / powerOfTen power.natAbs
      if scaled.isInf then none else some scaled
    else if value == 0.0 then some value
    else if 0 ≤ power then none
    else scaleByTen steps (value / powerOfTen greatestPower) (power + greatestPower)

namespace WrittenNumber

def integer? (written : WrittenNumber) : Option Int :=
  match written.fraction, written.exponent with
  | none, none =>
    let size := digitsValue written.whole
    if written.negative then
      if 0 < size && size ≤ limit63 then some (-size) else none
    else if size < limit64 then some size else none
  | _, _ => none

def float? (written : WrittenNumber) : Option Float :=
  let fraction := written.fraction.getD []
  let (gathered, beyond) := gatherDigits 0 written.whole
  let (gathered, ignored) := gatherDigits gathered fraction
  let power : Int :=
    beyond.length - (fraction.length - ignored.length : Nat) + written.exponent.getD 0
  (scaleByTen 4 gathered.toUInt64.toFloat power).map fun size =>
    if written.negative then -size else size

end WrittenNumber

def numberOfText? (text : List Char) : Option Json :=
  match WrittenNumber.read? text with
  | none => none
  | some written =>
    match written.integer? with
    | some value => some (.integer value)
    | none => written.float?.map .number

end TopicRouting.Json
