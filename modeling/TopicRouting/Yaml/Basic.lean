import TopicRouting.Json.Basic

set_option autoImplicit false

namespace TopicRouting

inductive Yaml where
  | null
  | unfit
  | boolean (value : Bool)
  | integer (value : Int)
  | real (text : String)
  | string (text : String)
  | sequence (items : List Yaml)
  | mapping (entries : List (Yaml × Yaml))
deriving Repr

namespace Yaml

def readBased? (base : Nat) (characters : List Char) : Option Int :=
  let (negative, digits) := takeSign characters
  if digits.isEmpty then none
  else
    let value := digits.foldlM
      (fun value c => ((hexDigit? c).filter (· < base)).map fun digit => base * value + digit) 0
    (value.map fun value => if negative then -(value : Int) else value).filter fitsSigned64

def readInteger? (text : String) : Option Int :=
  match text.toList with
  | '0' :: 'x' :: digits => readBased? 16 digits
  | '0' :: 'o' :: digits => readBased? 8 digits
  | '+' :: rest => readSigned64? (String.ofList rest)
  | _ => readSigned64? text

def isRealName (text : String) : Bool :=
  [".inf", ".Inf", ".INF", "+.inf", "+.Inf", "+.INF", "-.inf", "-.Inf", "-.INF",
    ".nan", "NaN", ".NAN"].contains text

def isReal (text : String) : Bool := isRealName text || (Decimal.read? text).isSome

def ofPlain (text : String) : Yaml :=
  match readInteger? text with
  | some value => .integer value
  | none =>
    if text = "~" || text = "null" then .null
    else if text = "true" then .boolean true
    else if text = "false" then .boolean false
    else if isReal text then .real text
    else .string text

-- The value of a scalar without quotes under a tag. A text has to fit the standard tags it
-- may stand under; other tags make it a text.
def ofTagged (handle suffix text : String) : Yaml :=
  match handle, suffix with
  | "!!", "bool" =>
    if text = "true" then .boolean true else if text = "false" then .boolean false else .unfit
  | "!!", "int" => ((readSigned64? text).map Yaml.integer).getD .unfit
  | "!!", "float" => if isReal text then .real text else .unfit
  | "!!", "null" => if text = "~" || text = "null" then .null else .unfit
  | _, _ => .string text

def isUnfit : Yaml → Bool
  | .unfit => true
  | _ => false

-- The entries of a mapping from its keys and values in turn. A key that is unfit does not
-- count, so that what follows it takes its place; a key at the end without a value does not count
-- either.
def pairUp : List Yaml → List (Yaml × Yaml)
  | [] => []
  | [_] => []
  | key :: value :: rest =>
    if key.isUnfit then pairUp (value :: rest) else (key, value) :: pairUp rest

def ofWritten (entries : List (Yaml × Yaml)) : Yaml :=
  .mapping (pairUp (entries.flatMap fun (key, value) => [key, value]))

end Yaml

end TopicRouting
