import TopicRouting.Json.Basic
import TopicRouting.Text.Printable

set_option autoImplicit false

namespace TopicRouting.Quoted

def escape (quotes : List Char) (c : Char) : String :=
  match c with
  | '\x00' => "\\0"
  | '\t' => "\\t"
  | '\r' => "\\r"
  | '\n' => "\\n"
  | '\\' => "\\\\"
  | c =>
    if quotes.contains c then "\\" ++ String.singleton c
    else if c.toNat = 0x20 || (isPrintable c && !isExtending c) then String.singleton c
    else "\\u\x7b" ++ hexText 1 c.toNat ++ "\x7d"

def between (mark : String) (quotes : List Char) (text : String) : String :=
  text.toList.foldl (fun written c => written ++ escape quotes c) mark ++ mark

def text (content : String) : String := between "\"" ['"'] content

def character (c : Char) : String := between "'" ['\''] (String.singleton c)

end TopicRouting.Quoted
