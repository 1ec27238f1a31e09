import TopicRouting.Json.Basic

set_option autoImplicit false

namespace TopicRouting.Toml

def digitRun? (isDigit : Char → Bool) : List Char → Option (List Char)
  | [] => none
  | [c] => if isDigit c then some [c] else none
  | c :: '_' :: rest => if isDigit c then (digitRun? isDigit rest).map (c :: ·) else none
  | c :: d :: rest => if isDigit c then (digitRun? isDigit (d :: rest)).map (c :: ·) else none

def valueInBase (base : Nat) (digits : List Char) : Int :=
  digits.foldl (fun value c => base * value + (hexDigit? c).getD 0) 0

def wholeDigits? (characters : List Char) : Option (List Char) :=
  (digitRun? Char.isDigit characters).filter fun digits =>
    digits.length = 1 || digits.head? ≠ some '0'

def baseOf? : Char → Option Nat
  | 'x' => some 16
  | 'o' => some 8
  | 'b' => some 2
  | _ => none

def isDigitOf (base : Nat) (c : Char) : Bool := (hexDigit? c).any (· < base)

def isPowerMark (c : Char) : Bool := c = 'e' || c = 'E'

end TopicRouting.Toml
