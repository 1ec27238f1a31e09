import TopicRouting.Toml.Basic
import TopicRouting.Toml.Digits
import TopicRouting.Toml.Strings

set_option autoImplicit false

namespace TopicRouting.Toml.Early

def takeRun? (characters : List Char) : Option (List Char × List Char) :=
  let run := characters.takeWhile isKeyChar
  if run.isEmpty then none else some (run, characters.dropWhile isKeyChar)

def leadingDigits? (zeros : Bool) (run : List Char) : Option (List Char × List Char) :=
  let isPart := fun c : Char => c.isDigit || c = '_'
  let written := run.takeWhile isPart
  let digits := if zeros then digitRun? Char.isDigit written else wholeDigits? written
  digits.map fun digits => (digits, run.dropWhile isPart)

def allDigits? (run : List Char) : Option (List Char) :=
  match leadingDigits? true run with
  | some (digits, []) => some digits
  | _ => none

-- Reads the power of ten that ends a number: `suffix` is what follows the digits in their run
-- and `rest` what follows the run, where a plus may stand before another run.
def readPower? (suffix rest : List Char) : Option (Int × List Char) :=
  match suffix with
  | [] => some (0, rest)
  | mark :: digits =>
    if !isPowerMark mark then none
    else if digits.isEmpty then
      let rest := match rest with
        | '+' :: rest => rest
        | rest => rest
      (takeRun? rest).bind fun (run, rest) =>
        (allDigits? run).map fun digits => ((digitsValue digits : Int), rest)
    else
      let (negative, digits) := takeSign digits
      (allDigits? digits).map fun digits =>
        (if negative then -(digitsValue digits : Int) else digitsValue digits, rest)

def readFloat? (run : List Char) (fraction : Option (List Char)) (rest : List Char) :
    Option (Toml × List Char) := do
  let (negative, unsigned) := takeSign run
  let (whole, suffix) ← leadingDigits? false unsigned
  let (part, suffix) ← match fraction with
    | none => some ([], suffix)
    | some fraction => if suffix.isEmpty then leadingDigits? true fraction else none
  let (power, rest) ← readPower? suffix rest
  let value : Decimal := .finite negative (digitsValue (whole ++ part)) (power - part.length)
  if value.toFloat.isInf then none else some (.float value, rest)

def runValue? (run : List Char) : Option Toml :=
  let (negative, unsigned) := takeSign run
  if unsigned = ['i', 'n', 'f'] then some (.float (.infinite negative))
  else if unsigned = ['n', 'a', 'n'] then some (.float .nan)
  else
    let value := (wholeDigits? unsigned).map fun digits =>
      if negative then -(digitsValue digits : Int) else digitsValue digits
    (value.filter fitsSigned64).map .integer

def basedValue? (base : Nat) (digits : List Char) : Option Toml :=
  let value := (digitRun? (isDigitOf base) digits).map (valueInBase base)
  (value.filter fitsSigned64).map .integer

def readNumber? (run rest : List Char) : Option (Toml × List Char) :=
  let based := match run with
    | '0' :: mark :: digits => (baseOf? mark).map fun base => basedValue? base digits
    | _ => none
  match based, rest with
  | some value, _ => value.map fun value => (value, rest)
  | none, '.' :: after =>
    if run.any isPowerMark then readFloat? run none rest
    else (takeRun? after).bind fun (fraction, rest) => readFloat? run (some fraction) rest
  | none, _ =>
    if run.any isPowerMark then readFloat? run none rest
    else (runValue? run).map fun value => (value, rest)

def passMarked? (mark : Char) (characters : List Char) : Option (List Char) :=
  match characters with
  | c :: rest => if c = mark then (takeRun? rest).map Prod.snd else some characters
  | [] => some []

def passMoment? (characters : List Char) : Option (List Char) :=
  let start := match characters with
    | ' ' :: after => ((takeRun? after).map Prod.snd).getD characters
    | _ => characters
  match start with
  | ':' :: after => do
    let (_, rest) ← takeRun? after
    let (_, rest) ← match rest with
      | ':' :: rest => takeRun? rest
      | _ => none
    passMarked? ':' (← passMarked? '+' (← passMarked? '.' rest))
  | _ => some start

def isPair (most : Nat) (a b : Char) : Bool :=
  a.isDigit && b.isDigit && digitsValue [a, b] ≤ most

def passTime? : List Char → Option (List Char)
  | a :: b :: ':' :: c :: d :: ':' :: e :: f :: rest =>
    if isPair 24 a b && isPair 59 c d && isPair 59 e f then
      match rest with
      | '.' :: rest =>
        if rest.head?.any Char.isDigit then some (rest.dropWhile Char.isDigit) else none
      | rest => some rest
    else none
  | _ => none

def isOffset : List Char → Bool
  | [] | ['Z'] | ['z'] => true
  | [sign, a, b, ':', c, d] =>
    (sign = '+' || sign = '-') && [a, b, c, d].all Char.isDigit
  | _ => false

def isMoment : List Char → Bool
  | a :: b :: ':' :: rest => (passTime? (a :: b :: ':' :: rest)).any List.isEmpty
  | y :: e :: a :: r :: '-' :: m :: n :: '-' :: d :: g :: rest =>
    [y, e, a, r].all Char.isDigit && isPair 12 m n && digitsValue [m, n] ≠ 0
      && isPair 31 d g && digitsValue [d, g] ≠ 0
      && match rest with
        | [] => true
        | c :: time => (c = 'T' || c = 't' || c = ' ') && (passTime? time).any isOffset
  | _ => false

def readMoment? (characters : List Char) : Option (Toml × List Char) := do
  let (_, after) ← takeRun? characters
  let rest ← passMoment? after
  let written := characters.take (characters.length - rest.length)
  if isMoment written then some (.moment (String.ofList written), rest) else none

def readBare (characters : List Char) : Option (Toml × List Char) :=
  match characters with
  | '+' :: after => (takeRun? after).bind fun (run, rest) => readNumber? run rest
  | _ =>
    (takeRun? characters).bind fun (run, rest) =>
      if run = ['t', 'r', 'u', 'e'] then some (.boolean true, rest)
      else if run = ['f', 'a', 'l', 's', 'e'] then some (.boolean false, rest)
      else (readMoment? characters).or (readNumber? run rest)

end TopicRouting.Toml.Early
