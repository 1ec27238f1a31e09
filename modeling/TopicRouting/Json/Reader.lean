import TopicRouting.Json.Number

set_option autoImplicit false

namespace TopicRouting.Json

def isSpace (c : Char) : Bool := c = ' ' || c = '\t' || c = '\n' || c = '\r'

def unit? (a b c d : Char) : Option Nat := readHex? [a, b, c, d]

def readString (read : List Char) : List Char → Option (String × List Char)
  | '"' :: rest => some (String.ofList read.reverse, rest)
  | '\\' :: '"' :: rest => readString ('"' :: read) rest
  | '\\' :: '\\' :: rest => readString ('\\' :: read) rest
  | '\\' :: '/' :: rest => readString ('/' :: read) rest
  | '\\' :: 'b' :: rest => readString ('\x08' :: read) rest
  | '\\' :: 'f' :: rest => readString ('\x0c' :: read) rest
  | '\\' :: 'n' :: rest => readString ('\n' :: read) rest
  | '\\' :: 'r' :: rest => readString ('\r' :: read) rest
  | '\\' :: 't' :: rest => readString ('\t' :: read) rest
  | '\\' :: 'u' :: a :: b :: c :: d :: rest =>
    match unit? a b c d with
    | none => none
    | some high =>
      if 0xD800 ≤ high && high < 0xDC00 then
        match rest with
        | '\\' :: 'u' :: e :: f :: g :: h :: rest =>
          match unit? e f g h with
          | none => none
          | some low =>
            if 0xDC00 ≤ low && low < 0xE000 then
              match charOfNat? (0x10000 + (high - 0xD800) * 0x400 + (low - 0xDC00)) with
              | none => none
              | some c => readString (c :: read) rest
            else none
        | _ => none
      else
        match charOfNat? high with
        | none => none
        | some c => readString (c :: read) rest
  | c :: rest =>
    if c = '\\' || c.toNat < 0x20 then none else readString (c :: read) rest
  | [] => none

def isNumberChar (c : Char) : Bool :=
  c.isDigit || c = '+' || c = '-' || c = '.' || c = 'e' || c = 'E'

mutual

def readValue : (fuel depth : Nat) → List Char → Option (Json × List Char)
  | 0, _, _ => none
  | fuel + 1, depth, characters =>
    match characters.dropWhile isSpace with
    | 'n' :: 'u' :: 'l' :: 'l' :: rest => some (.null, rest)
    | 't' :: 'r' :: 'u' :: 'e' :: rest => some (.boolean true, rest)
    | 'f' :: 'a' :: 'l' :: 's' :: 'e' :: rest => some (.boolean false, rest)
    | '"' :: rest => (readString [] rest).map fun (text, rest) => (.string text, rest)
    | '[' :: rest =>
      match depth, rest.dropWhile isSpace with
      | 0, _ => none
      | _ + 1, ']' :: rest => some (.array [], rest)
      | depth + 1, rest =>
        (readItems fuel depth rest).map fun (items, rest) => (.array items, rest)
    | '\x7b' :: rest =>
      match depth, rest.dropWhile isSpace with
      | 0, _ => none
      | _ + 1, '\x7d' :: rest => some (.object [], rest)
      | depth + 1, rest =>
        (readMembers fuel depth rest).map fun (members, rest) => (.object members, rest)
    | rest =>
      (numberOfText? (rest.takeWhile isNumberChar)).map fun value =>
        (value, rest.dropWhile isNumberChar)

def readItems : (fuel depth : Nat) → List Char → Option (List Json × List Char)
  | 0, _, _ => none
  | fuel + 1, depth, characters =>
    match readValue fuel depth characters with
    | none => none
    | some (item, rest) =>
      match rest.dropWhile isSpace with
      | ',' :: rest =>
        (readItems fuel depth rest).map fun (items, rest) => (item :: items, rest)
      | ']' :: rest => some ([item], rest)
      | _ => none

def readMembers : (fuel depth : Nat) → List Char → Option (List (String × Json) × List Char)
  | 0, _, _ => none
  | fuel + 1, depth, characters =>
    match characters.dropWhile isSpace with
    | '"' :: rest =>
      match readString [] rest with
      | none => none
      | some (name, rest) =>
        match rest.dropWhile isSpace with
        | ':' :: rest =>
          match readValue fuel depth rest with
          | none => none
          | some (value, rest) =>
            match rest.dropWhile isSpace with
            | ',' :: rest =>
              (readMembers fuel depth rest).map fun (members, rest) =>
                ((name, value) :: members, rest)
            | '\x7d' :: rest => some ([(name, value)], rest)
            | _ => none
        | _ => none
    | _ => none

end

def read? (text : String) : Option Json :=
  let characters := text.toList
  match readValue (2 * characters.length + 2) 127 characters with
  | some (value, rest) => if (rest.dropWhile isSpace).isEmpty then some value else none
  | none => none

end TopicRouting.Json
