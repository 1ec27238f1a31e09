import TopicRouting.Json.Basic

set_option autoImplicit false

namespace TopicRouting.Toml

def isBlankChar (c : Char) : Bool := c = ' ' || c = '\t'

def isTextChar (c : Char) : Bool := c = '\t' || (0x20 ≤ c.toNat && c.toNat ≠ 0x7F)

def isKeyChar (c : Char) : Bool := c.isAlphanum || c = '_' || c = '-'

def shortEscape? : Char → Option Char
  | 'b' => some '\x08'
  | 't' => some '\t'
  | 'n' => some '\n'
  | 'f' => some '\x0c'
  | 'r' => some '\r'
  | '"' => some '"'
  | '\\' => some '\\'
  | _ => none

def numberedChar? (digits : List Char) : Option Char :=
  (readHex? digits).bind charOfNat?

def readBasic (read : List Char) : List Char → Option (String × List Char)
  | '"' :: rest => some (String.ofList read.reverse, rest)
  | '\\' :: 'u' :: a :: b :: c :: d :: rest =>
    match numberedChar? [a, b, c, d] with
    | some found => readBasic (found :: read) rest
    | none => none
  | '\\' :: 'U' :: a :: b :: c :: d :: e :: f :: g :: h :: rest =>
    match numberedChar? [a, b, c, d, e, f, g, h] with
    | some found => readBasic (found :: read) rest
    | none => none
  | '\\' :: c :: rest =>
    match shortEscape? c with
    | some found => readBasic (found :: read) rest
    | none => none
  | c :: rest => if isTextChar c && c ≠ '\\' then readBasic (c :: read) rest else none
  | [] => none

def readLiteral (read : List Char) : List Char → Option (String × List Char)
  | '\'' :: rest => some (String.ofList read.reverse, rest)
  | c :: rest => if isTextChar c then readLiteral (c :: read) rest else none
  | [] => none

def endsLine (characters : List Char) : Bool :=
  match characters.dropWhile isBlankChar with
  | '\n' :: _ => true
  | '\r' :: '\n' :: _ => true
  | _ => false

-- Reads the rest of a string in three double quotes. After a backslash at the end of a line,
-- `trimming` drops blanks and line breaks up to the next other character.
def readBasicLines (read : List Char) (trimming : Bool) : List Char → Option (String × List Char)
  | '"' :: '"' :: '"' :: '"' :: '"' :: rest =>
    some (String.ofList ('"' :: '"' :: read).reverse, rest)
  | '"' :: '"' :: '"' :: '"' :: rest => some (String.ofList ('"' :: read).reverse, rest)
  | '"' :: '"' :: '"' :: rest => some (String.ofList read.reverse, rest)
  | '\\' :: 'u' :: a :: b :: c :: d :: rest =>
    match numberedChar? [a, b, c, d] with
    | some found => readBasicLines (found :: read) false rest
    | none => none
  | '\\' :: 'U' :: a :: b :: c :: d :: e :: f :: g :: h :: rest =>
    match numberedChar? [a, b, c, d, e, f, g, h] with
    | some found => readBasicLines (found :: read) false rest
    | none => none
  | '\\' :: c :: rest =>
    match shortEscape? c with
    | some found => readBasicLines (found :: read) false rest
    | none => if endsLine (c :: rest) then readBasicLines read true (c :: rest) else none
  | '\n' :: rest => readBasicLines (if trimming then read else '\n' :: read) trimming rest
  | '\r' :: '\n' :: rest =>
    readBasicLines (if trimming then read else '\n' :: read) trimming rest
  | c :: rest =>
    if trimming && isBlankChar c then readBasicLines read true rest
    else if isTextChar c && c ≠ '\\' then readBasicLines (c :: read) false rest
    else none
  | [] => none

def readLiteralLines (read : List Char) : List Char → Option (String × List Char)
  | '\'' :: '\'' :: '\'' :: '\'' :: '\'' :: rest =>
    some (String.ofList ('\'' :: '\'' :: read).reverse, rest)
  | '\'' :: '\'' :: '\'' :: '\'' :: rest => some (String.ofList ('\'' :: read).reverse, rest)
  | '\'' :: '\'' :: '\'' :: rest => some (String.ofList read.reverse, rest)
  | '\n' :: rest => readLiteralLines ('\n' :: read) rest
  | '\r' :: '\n' :: rest => readLiteralLines ('\n' :: read) rest
  | c :: rest => if isTextChar c then readLiteralLines (c :: read) rest else none
  | [] => none

def dropLineBreak : List Char → List Char
  | '\n' :: rest => rest
  | '\r' :: '\n' :: rest => rest
  | rest => rest

def readString : List Char → Option (String × List Char)
  | '"' :: '"' :: '"' :: rest => readBasicLines [] false (dropLineBreak rest)
  | '"' :: rest => readBasic [] rest
  | '\'' :: '\'' :: '\'' :: rest => readLiteralLines [] (dropLineBreak rest)
  | '\'' :: rest => readLiteral [] rest
  | _ => none

end TopicRouting.Toml
