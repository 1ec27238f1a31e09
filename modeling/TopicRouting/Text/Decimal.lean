set_option autoImplicit false

namespace TopicRouting

def digitsValue (digits : List Char) : Nat :=
  digits.foldl (fun value c => 10 * value + (c.toNat - '0'.toNat)) 0

def takeSign : List Char → Bool × List Char
  | '+' :: rest => (false, rest)
  | '-' :: rest => (true, rest)
  | rest => (false, rest)

def readNat? (digits : List Char) : Option Nat :=
  if !digits.isEmpty && digits.all Char.isDigit then some (digitsValue digits) else none

def readInteger? (text : String) : Option Int :=
  let (negative, digits) := takeSign text.toList
  (readNat? digits).map fun value => if negative then -(value : Int) else value

def limit63 : Nat := Nat.pow 2 63

def limit64 : Nat := Nat.pow 2 64

def fitsSigned64 (value : Int) : Bool := -(limit63 : Int) ≤ value && value < limit63

def readSigned64? (text : String) : Option Int :=
  (readInteger? text).filter fitsSigned64

def readUnsigned64? (text : String) : Option Nat :=
  let digits := match text.toList with
    | '+' :: rest => rest
    | rest => rest
  (readNat? digits).filter fun value => value < limit64

inductive Decimal where
  | finite (negative : Bool) (digits : Nat) (exponent : Int)
  | infinite (negative : Bool)
  | nan
deriving DecidableEq, Repr

namespace Decimal

def readExponent? : List Char → Option Int
  | [] => some 0
  | c :: rest =>
    if c = 'e' || c = 'E' then readInteger? (String.ofList rest) else none

def readFraction? (negative : Bool) (characters : List Char) : Option Decimal :=
  let whole := characters.takeWhile Char.isDigit
  let rest := characters.dropWhile Char.isDigit
  let (part, rest) := match rest with
    | '.' :: rest => (rest.takeWhile Char.isDigit, rest.dropWhile Char.isDigit)
    | rest => ([], rest)
  if (whole ++ part).isEmpty then none
  else
    (readExponent? rest).map fun exponent =>
      .finite negative (digitsValue (whole ++ part)) (exponent - part.length)

def read? (text : String) : Option Decimal :=
  let (negative, rest) := takeSign text.toList
  let name := String.ofList (rest.map Char.toLower)
  if name = "inf" || name = "infinity" then some (.infinite negative)
  else if name = "nan" then some .nan
  else readFraction? negative rest

def toFloat : Decimal → Float
  | .nan => 0.0 / 0.0
  | .infinite negative => if negative then -1.0 / 0.0 else 1.0 / 0.0
  | .finite negative digits exponent =>
    let magnitude : Int := exponent + (Nat.toDigits 10 digits).length
    let value : Float :=
      if digits = 0 || magnitude < -400 then 0.0
      else if 400 < magnitude then 1.0 / 0.0
      else Float.ofScientific digits (exponent < 0) exponent.natAbs
    if negative then -value else value

end Decimal

end TopicRouting
