import TopicRouting.Topic.Segment

set_option autoImplicit false

namespace TopicRouting

inductive KeyFault where
  | empty
  | tooLong
  | embeddedNul
  | leadingSeparator
  | emptySegment
  -- A fault stated by a caller in its own words.
  | stated (reason : String)
deriving DecidableEq, Repr

def KeyFault.message : KeyFault → String
  | .empty => "empty key"
  | .tooLong => "key too long"
  | .embeddedNul => "embedded NUL byte"
  | .leadingSeparator => "leading separator"
  | .emptySegment => "empty token"
  | .stated reason => reason

inductive KeyKind where
  -- Kept whole and matched only by the identical key.
  | literal
  -- Cut into segments, one level of the forest each.
  | topic
deriving DecidableEq, Repr

structure KeyRules where
  -- Keys of this many bytes or more are refused.
  maxLength : Nat
  literalMarker : Char
deriving DecidableEq, Repr

def hasEmptySegment : List Char → Bool
  | [] => false
  | c :: rest => (c == separator && rest.head? == some separator) || hasEmptySegment rest

def KeyRules.classify (rules : KeyRules) (text : String) : Except KeyFault KeyKind :=
  let characters := text.toList
  if characters.isEmpty then .error .empty
  else if rules.maxLength ≤ text.utf8ByteSize then .error .tooLong
  else if characters.contains '\x00' then .error .embeddedNul
  else if characters.head? = some rules.literalMarker then .ok .literal
  else if characters.head? = some separator then .error .leadingSeparator
  else if hasEmptySegment characters then .error .emptySegment
  else .ok .topic

def KeyKind.path (kind : KeyKind) (text : String) : Path :=
  match kind with
  | .literal => [.literal text]
  | .topic => Path.ofTopic text

end TopicRouting
