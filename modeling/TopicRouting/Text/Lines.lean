set_option autoImplicit false

namespace TopicRouting

def unlines : List String → String
  | [] => ""
  | line :: rest => line ++ "\n" ++ unlines rest

def finishLine : (pending : List Char) → String
  | '\r' :: pending => String.ofList pending.reverse
  | pending => String.ofList pending.reverse

def scanLines (pending : List Char) : List Char → List String
  | [] => if pending.isEmpty then [] else [String.ofList pending.reverse]
  | '\n' :: rest => finishLine pending :: scanLines [] rest
  | c :: rest => scanLines (c :: pending) rest

def lines (text : String) : List String :=
  scanLines [] text.toList

end TopicRouting
