import TopicRouting.Json.Basic
import TopicRouting.Text.Alphanumeric

/-!
Regular expressions, as far as it matters whether a text is one. They come from between braces,
so no closing brace stands in them and what needs one is refused. Word boundaries are well
formed but cannot be looked for.
-/

set_option autoImplicit false

namespace TopicRouting

inductive ExpressionFault where
  | malformed
  | wordBoundary
deriving DecidableEq, Repr

namespace Expression

inductive Item where
  | character (c : Char)
  | characters
  | edge
  | wordBoundary
deriving DecidableEq, Repr

def readNumbered? (width : Nat) (characters : List Char) : Option (Item × List Char) :=
  let digits := characters.take width
  if digits.length < width then none
  else ((readHex? digits).bind charOfNat?).map fun c => (.character c, characters.drop width)

def escaped? (c : Char) : Option Item :=
  if ['d', 'D', 's', 'S', 'w', 'W'].contains c then some .characters
  else if c = 'A' || c = 'z' then some .edge
  else if ['b', 'B', '<', '>'].contains c then some .wordBoundary
  else
    match c with
    | 'a' => some (.character '\x07')
    | 'f' => some (.character '\x0c')
    | 't' => some (.character '\t')
    | 'n' => some (.character '\n')
    | 'r' => some (.character '\r')
    | 'v' => some (.character '\x0b')
    | _ => if c.toNat < 0x80 && !c.isAlphanum then some (.character c) else none

def readEscape? : List Char → Option (Item × List Char)
  | 'x' :: rest => readNumbered? 2 rest
  | 'u' :: rest => readNumbered? 4 rest
  | 'U' :: rest => readNumbered? 8 rest
  | 'p' :: c :: rest | 'P' :: c :: rest =>
    if ['c', 'l', 'm', 'n', 'p', 's', 'z'].contains c.toLower then some (.characters, rest)
    else none
  | c :: rest => (escaped? c).map fun item => (item, rest)
  | [] => none

def readMember? : List Char → Option (Item × List Char)
  | '\\' :: rest =>
    (readEscape? rest).filter fun found => found.1 ≠ .edge && found.1 ≠ .wordBoundary
  | c :: rest => some (.character c, rest)
  | [] => none

def passMember? (characters : List Char) : Option (List Char) :=
  match readMember? characters with
  | none => none
  | some (first, '-' :: rest) =>
    match rest with
    | ']' :: _ | '-' :: _ => some ('-' :: rest)
    | _ =>
      match first, readMember? rest with
      | .character a, some (.character b, rest) => if a ≤ b then some rest else none
      | _, _ => none
  | some (_, rest) => some rest

def passSetStart (characters : List Char) : List Char :=
  let rest := match characters with
    | '^' :: rest => rest
    | rest => rest
  match rest with
  | ']' :: rest => rest
  | rest => rest.dropWhile (· = '-')

def passSet? : (fuel outer : Nat) → List Char → Option (List Char)
  | 0, _, _ => none
  | fuel + 1, outer, characters =>
    match characters, outer with
    | [], _ => none
    | ']' :: rest, 0 => some rest
    | ']' :: rest, outer + 1 => passSet? fuel outer rest
    | '[' :: rest, outer => passSet? fuel (outer + 1) (passSetStart rest)
    | '&' :: '&' :: rest, outer | '-' :: '-' :: rest, outer | '~' :: '~' :: rest, outer =>
      passSet? fuel outer rest
    | characters, outer => (passMember? characters).bind (passSet? fuel outer)

def passFlags? (seen : List Char) : List Char → Option (Bool × List Char)
  | ':' :: rest => if seen.head? = some '-' then none else some (true, rest)
  | ')' :: rest => if seen.isEmpty || seen.head? = some '-' then none else some (false, rest)
  | c :: rest =>
    if ['i', 'm', 's', 'U', 'u', 'R', 'x', '-'].contains c && !seen.contains c then
      passFlags? (c :: seen) rest
    else none
  | [] => none

def isGroupName : List Char → Bool
  | [] => false
  | first :: rest =>
    (first = '_' || (isAlphanumeric first && !first.isDigit))
      && rest.all fun c => c = '_' || c = '.' || c = '[' || c = ']' || isAlphanumeric c

inductive Opening where
  | group (name : Option (List Char))
  | flags
deriving DecidableEq, Repr

def readGroupName? (characters : List Char) : Option (Opening × List Char) :=
  let name := characters.takeWhile (· ≠ '>')
  match characters.dropWhile (· ≠ '>') with
  | _ :: rest => if isGroupName name then some (.group (some name), rest) else none
  | [] => none

def readOpening? : List Char → Option (Opening × List Char)
  | '?' :: 'P' :: '<' :: rest | '?' :: '<' :: rest => readGroupName? rest
  | '?' :: rest =>
    (passFlags? [] rest).map fun (opens, rest) => (if opens then .group none else .flags, rest)
  | rest => some (.group none, rest)

structure Progress where
  groups : Nat := 0
  names : List (List Char) := []
  repeatable : Bool := false
  boundary : Bool := false
deriving DecidableEq, Repr

def Progress.past (progress : Progress) : Progress := { progress with repeatable := true }

def Progress.enter? (progress : Progress) : Opening → Option Progress
  | .flags => some { progress with repeatable := false }
  | .group none => some { progress with groups := progress.groups + 1, repeatable := false }
  | .group (some name) =>
    if progress.names.contains name then none
    else
      some { progress with
        groups := progress.groups + 1, names := name :: progress.names, repeatable := false }

def step? (progress : Progress) : List Char → Option (Progress × List Char)
  | [] => none
  | '(' :: rest =>
    (readOpening? rest).bind fun (opening, rest) =>
      (progress.enter? opening).map fun progress => (progress, rest)
  | ')' :: rest =>
    if progress.groups = 0 then none
    else some ({ progress with groups := progress.groups - 1, repeatable := true }, rest)
  | '|' :: rest => some ({ progress with repeatable := false }, rest)
  | '[' :: rest =>
    (passSet? (rest.length + 1) 0 (passSetStart rest)).map fun rest => (progress.past, rest)
  | '\\' :: rest =>
    (readEscape? rest).map fun (item, rest) =>
      ({ progress.past with boundary := progress.boundary || item = .wordBoundary }, rest)
  | c :: rest =>
    if c = '\x7b' then none
    else if c = '*' || c = '+' || c = '?' then
      if progress.repeatable then
        some (progress, match rest with
          | '?' :: rest => rest
          | rest => rest)
      else none
    else some (progress.past, rest)

def finish? : (fuel : Nat) → Progress → List Char → Option Progress
  | _, progress, [] => if progress.groups = 0 then some progress else none
  | 0, _, _ => none
  | fuel + 1, progress, characters =>
    (step? progress characters).bind fun (progress, rest) => finish? fuel progress rest

def fault? (text : String) : Option ExpressionFault :=
  match finish? text.toList.length {} text.toList with
  | none => some .malformed
  | some progress => if progress.boundary then some .wordBoundary else none

end Expression

end TopicRouting
