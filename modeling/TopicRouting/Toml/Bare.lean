import TopicRouting.Toml.Basic
import TopicRouting.Toml.Digits

set_option autoImplicit false

namespace TopicRouting.Toml

def basedInteger? : List Char → Option Int
  | '0' :: mark :: digits =>
    (baseOf? mark).bind fun base => (digitRun? (isDigitOf base) digits).map (valueInBase base)
  | _ => none

def decimalInteger? (characters : List Char) : Option Int :=
  let (negative, digits) := takeSign characters
  (wholeDigits? digits).map fun digits =>
    if negative then -(digitsValue digits : Int) else digitsValue digits

def integerOf? (characters : List Char) : Option Int :=
  ((basedInteger? characters).or (decimalInteger? characters)).filter fitsSigned64

def exponentOf? (characters : List Char) : Option Int :=
  let (negative, digits) := takeSign characters
  (digitRun? Char.isDigit digits).map fun digits =>
    if negative then -(digitsValue digits : Int) else digitsValue digits

def fractionOf? (characters : List Char) : Option Decimal :=
  let (negative, rest) := takeSign characters
  if rest = ['i', 'n', 'f'] then some (.infinite negative)
  else if rest = ['n', 'a', 'n'] then some .nan
  else
    let mantissa := rest.takeWhile fun c => !isPowerMark c
    let exponent := (rest.dropWhile fun c => !isPowerMark c).drop 1
    let whole := mantissa.takeWhile (· ≠ '.')
    let part := (mantissa.dropWhile (· ≠ '.')).drop 1
    let hasPart := mantissa.contains '.'
    let hasExponent := rest.any isPowerMark
    if !hasPart && !hasExponent then none
    else
      match wholeDigits? whole, (if hasPart then digitRun? Char.isDigit part else some []),
        (if hasExponent then exponentOf? exponent else some 0) with
      | some whole, some part, some exponent =>
        some (.finite negative (digitsValue (whole ++ part)) (exponent - part.length))
      | _, _, _ => none

-- Value of a number that is no integer. Digits beyond the largest binary number are refused
-- unless a minus stands in front.
def floatOf? (characters : List Char) : Option Decimal :=
  (fractionOf? characters).filter fun value =>
    match value with
    | .finite .. => !(0.0 < value.toFloat && value.toFloat.isInf)
    | _ => true

def daysInMonth (year month : Nat) : Nat :=
  if month = 2 then
    if year % 4 = 0 && (year % 100 ≠ 0 || year % 400 = 0) then 29 else 28
  else if month ∈ [4, 6, 9, 11] then 30
  else 31

def isDate (characters : List Char) : Bool :=
  match characters with
  | [a, b, c, d, '-', e, f, '-', g, h] =>
    [a, b, c, d, e, f, g, h].all Char.isDigit &&
      let year := digitsValue [a, b, c, d]
      let month := digitsValue [e, f]
      let day := digitsValue [g, h]
      1 ≤ month && month ≤ 12 && 1 ≤ day && day ≤ daysInMonth year month
  | _ => false

def isClock (characters : List Char) : Bool :=
  match characters with
  | [a, b, ':', c, d] =>
    [a, b, c, d].all Char.isDigit && digitsValue [a, b] ≤ 23 && digitsValue [c, d] ≤ 59
  | _ => false

def isTime (characters : List Char) : Bool :=
  isClock (characters.take 5) &&
    match characters.drop 5 with
    | ':' :: a :: b :: rest =>
      a.isDigit && b.isDigit && digitsValue [a, b] ≤ 60 &&
        match rest with
        | [] => true
        | '.' :: rest => !rest.isEmpty && rest.all Char.isDigit
        | _ => false
    | _ => false

def isOffset (characters : List Char) : Bool :=
  match characters with
  | ['Z'] | ['z'] => true
  | '+' :: rest | '-' :: rest => isClock rest
  | _ => false

def isZonedTime (characters : List Char) : Bool :=
  let isMark := fun c => c = 'Z' || c = 'z' || c = '+' || c = '-'
  let time := characters.takeWhile fun c => !isMark c
  let offset := characters.dropWhile fun c => !isMark c
  isTime time && (offset.isEmpty || isOffset offset)

def isMoment (characters : List Char) : Bool :=
  isTime characters ||
    (isDate (characters.take 10) &&
      match characters.drop 10 with
      | [] => true
      | 'T' :: rest | 't' :: rest => isZonedTime rest
      | _ => false)

def isBareChar (c : Char) : Bool :=
  c.isAlphanum || c = '+' || c = '-' || c = '.' || c = '_' || c = ':'

def bareValue? (characters : List Char) : Option Toml :=
  if characters = ['t', 'r', 'u', 'e'] then some (.boolean true)
  else if characters = ['f', 'a', 'l', 's', 'e'] then some (.boolean false)
  else if isMoment characters then some (.moment (String.ofList characters))
  else
    match integerOf? characters with
    | some value => some (.integer value)
    | none => (floatOf? characters).map .float

def readBare (characters : List Char) : Option (Toml × List Char) :=
  let written := characters.takeWhile isBareChar
  let rest := characters.dropWhile isBareChar
  match isDate written, rest with
  | true, ' ' :: after =>
    let time := after.takeWhile isBareChar
    if isZonedTime time then
      some (.moment (String.ofList (written ++ 'T' :: time)), after.dropWhile isBareChar)
    else (bareValue? written).map fun value => (value, rest)
  | _, _ => (bareValue? written).map fun value => (value, rest)

end TopicRouting.Toml
