import TopicRouting.Json.Basic

set_option autoImplicit false

namespace TopicRouting.Toml

def longestRun (c : Char) (current : Nat) : List Char → Nat
  | [] => current
  | found :: rest =>
    if found = c then longestRun c (current + 1) rest
    else max current (longestRun c 0 rest)

def needsEscape (c : Char) : Bool :=
  (c.toNat < 0x20 && c ≠ '\t' && c ≠ '\n') || c.toNat = 0x7F

inductive Spelling where
  | basic
  | literal
  | basicLines
  | literalLines
deriving DecidableEq, Repr

def Spelling.of (characters : List Char) : Spelling :=
  let escaped := characters.any needsEscape
  let backslash := characters.contains '\\'
  let lineBreak := characters.contains '\n'
  let single := longestRun '\'' 0 characters
  let double := longestRun '"' 0 characters
  if !escaped && !backslash && double = 0 && !lineBreak then .basic
  else if !escaped && single = 0 && !lineBreak then .literal
  else if !escaped && !backslash && double ≤ 2 then .basicLines
  else if !escaped && single ≤ 2 then .literalLines
  else if lineBreak then .basicLines
  else .basic

def escapeChar (c : Char) : List Char :=
  match c with
  | '\x08' => ['\\', 'b']
  | '\t' => ['\\', 't']
  | '\x0c' => ['\\', 'f']
  | '\r' => ['\\', 'r']
  | '\\' => ['\\', '\\']
  | c =>
    if needsEscape c then '\\' :: 'u' :: (hexText 4 c.toNat).toList.map Char.toUpper else [c]

def escapeBasic : List Char → List Char
  | [] => []
  | c :: rest =>
    (if c = '\n' then ['\\', 'n'] else if c = '"' then ['\\', '"'] else escapeChar c)
      ++ escapeBasic rest

def escapeBasicLines (quotes : Nat) : List Char → List Char
  | [] => []
  | c :: rest =>
    if c = '"' then
      if 2 ≤ quotes then '\\' :: '"' :: escapeBasicLines 0 rest
      else '"' :: escapeBasicLines (quotes + 1) rest
    else if c = '\n' then '\n' :: escapeBasicLines 0 rest
    else escapeChar c ++ escapeBasicLines 0 rest

def quote (text : String) : String :=
  let characters := text.toList
  let opening := if characters.contains '\n' then "\n" else ""
  match Spelling.of characters with
  | .basic => "\"" ++ String.ofList (escapeBasic characters) ++ "\""
  | .literal => "'" ++ text ++ "'"
  | .basicLines =>
    "\"\"\"" ++ opening ++ String.ofList (escapeBasicLines 0 characters) ++ "\"\"\""
  | .literalLines => "'''" ++ opening ++ text ++ "'''"

end TopicRouting.Toml
