/-!
Segments and paths. A topic is cut at its separators; every segment but the last keeps its
separator, so the branch of a name and the leaf of the same name are different segments.
A literal key is one segment of its own and is never cut.
-/

set_option autoImplicit false

namespace TopicRouting

def separator : Char := '.'

inductive Segment where
  -- A name followed by the separator.
  | branch (name : String)
  -- A name that ends its topic.
  | leaf (name : String)
  -- A whole literal key.
  | literal (key : String)
deriving DecidableEq, Repr

def Segment.text : Segment → String
  | .branch name => name.push separator
  | .leaf name => name
  | .literal key => key

def Segment.isLiteral : Segment → Bool
  | .literal _ => true
  | _ => false

def Segment.isBranch : Segment → Bool
  | .branch _ => true
  | _ => false

abbrev Path := List Segment

def Path.text : Path → String
  | [] => ""
  | segment :: rest => segment.text ++ Path.text rest

def Path.isLiteral : Path → Bool
  | [segment] => segment.isLiteral
  | _ => false

-- Cuts characters at every separator; `pending` holds the characters read since the last
-- one, the latest first.
def Path.scan (pending : List Char) : List Char → Path
  | [] => if pending.isEmpty then [] else [.leaf (String.ofList pending.reverse)]
  | c :: rest =>
    if c = separator then .branch (String.ofList pending.reverse) :: Path.scan [] rest
    else Path.scan (c :: pending) rest

def Path.ofTopic (topic : String) : Path :=
  Path.scan [] topic.toList

end TopicRouting
