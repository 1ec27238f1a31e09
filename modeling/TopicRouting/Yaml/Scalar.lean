import TopicRouting.Json.Basic
import TopicRouting.Yaml.Token

set_option autoImplicit false

namespace TopicRouting.Yaml

structure Gap where
  spacing : List Char := []
  breaks : Nat := 0
  escaped : Bool := false
deriving DecidableEq, Repr

namespace Gap

def isBroken (gap : Gap) : Bool := gap.escaped || 0 < gap.breaks

def add (gap : Gap) (c : Char) : Gap :=
  if isBreak c then { gap with breaks := gap.breaks + 1 }
  else if gap.isBroken then gap
  else { gap with spacing := c :: gap.spacing }

def folded (gap : Gap) : List Char :=
  if gap.escaped then List.replicate gap.breaks '\n'
  else
    match gap.breaks with
    | 0 => gap.spacing
    | 1 => [' ']
    | n + 2 => List.replicate (n + 1) '\n'

end Gap

structure ScalarRead where
  text : String
  cursor : Cursor
  broken : Bool

def endsPlain (flow : Bool) (c : Char) (rest : List Char) : Bool :=
  if c = ':' then startsApart rest || (flow && rest.head?.any isFlowMark)
  else flow && isFlowMark c

-- Reads a scalar without quotes. In a block it ends before a line that is indented less than
-- `indent`; `text` holds its characters so far, the last first, and `gap` what follows them.
def readPlain (flow : Bool) (indent : Nat) (text : List Char) (gap : Option Gap) :
    List Char → Place → Option ScalarRead
  | [], place => some ⟨String.ofList text.reverse, ⟨[], place⟩, gap.any Gap.isBroken⟩
  | c :: rest, place =>
    if isSpacing c || isBreak c then
      if c = '\t' && gap.any Gap.isBroken && place.column < indent then none
      else readPlain flow indent text (some ((gap.getD {}).add c)) rest (place.after c)
    else
      let ends := match gap with
        | none => endsPlain flow c rest
        | some _ =>
          (!flow && place.column < indent) || c = '#' || endsPlain flow c rest
            || (place.column = 0 && startsDocumentMark (c :: rest))
      if ends then
        some ⟨String.ofList text.reverse, ⟨c :: rest, place⟩, gap.any Gap.isBroken⟩
      else
        let between := (gap.map Gap.folded).getD []
        readPlain flow indent (c :: (between ++ text)) none rest (place.after c)

def escaped? : Char → Option Char
  | '0' => some '\x00'
  | 'a' => some '\x07'
  | 'b' => some '\x08'
  | 't' | '\t' => some '\t'
  | 'n' => some '\n'
  | 'v' => some '\x0b'
  | 'f' => some '\x0c'
  | 'r' => some '\r'
  | 'e' => some '\x1b'
  | ' ' => some ' '
  | '"' => some '"'
  | '\'' => some '\''
  | '\\' => some '\\'
  | 'N' => some '\u0085'
  | '_' => some '\u00a0'
  | 'L' => some '\u2028'
  | 'P' => some '\u2029'
  | _ => none

def escapeWidth? : Char → Option Nat
  | 'x' => some 2
  | 'u' => some 4
  | 'U' => some 8
  | _ => none

def readEscape? : List Char → Option (Char × Nat)
  | [] => none
  | c :: rest =>
    match escapeWidth? c with
    | none => (escaped? c).map fun read => (read, 1)
    | some width =>
      let digits := rest.take width
      if digits.length < width then none
      else ((readHex? digits).bind charOfNat?).map fun read => (read, width + 1)

def readQuoted (single : Bool) (text : List Char) (gap : Option Gap) (cursor : Cursor) :
    (fuel : Nat) → Option ScalarRead
  | 0 => none
  | fuel + 1 =>
    match cursor.rest with
    | [] => none
    | c :: rest =>
      if isSpacing c || isBreak c then
        readQuoted single text (some ((gap.getD {}).add c)) cursor.skip fuel
      else if gap.isSome && cursor.place.column = 0 && startsDocumentMark cursor.rest then none
      else
        let text := (gap.map Gap.folded).getD [] ++ text
        if single then
          match c, rest with
          | '\'', '\'' :: _ => readQuoted single ('\'' :: text) none (cursor.skipMany 2) fuel
          | '\'', _ => some ⟨String.ofList text.reverse, cursor.skip, false⟩
          | _, _ => readQuoted single (c :: text) none cursor.skip fuel
        else if c = '"' then some ⟨String.ofList text.reverse, cursor.skip, false⟩
        else if c = '\\' then
          if rest.head?.any isBreak then
            readQuoted single text (some ⟨[], 0, true⟩) (cursor.skipMany 2) fuel
          else
            match readEscape? rest with
            | none => none
            | some (read, length) =>
              readQuoted single (read :: text) none (cursor.skipMany (length + 1)) fuel
        else readQuoted single (c :: text) none cursor.skip fuel

inductive Chomping where
  | clip
  | strip
  | keep
deriving DecidableEq, Repr

def readChomping : List Char → Chomping × List Char
  | '+' :: rest => (.keep, rest)
  | '-' :: rest => (.strip, rest)
  | rest => (.clip, rest)

def readIncrement? : List Char → Option (Option Nat × List Char)
  | c :: rest =>
    if c = '0' then none
    else if c.isDigit then some (some (c.toNat - '0'.toNat), rest)
    else some (none, c :: rest)
  | [] => some (none, [])

def readBlockMarks? (characters : List Char) : Option (Chomping × Option Nat × List Char) :=
  match readChomping characters with
  | (.clip, rest) =>
    (readIncrement? rest).map fun (increment, rest) =>
      match increment with
      | none => (.clip, none, rest)
      | some _ =>
        let (chomping, rest) := readChomping rest
        (chomping, increment, rest)
  | (chomping, rest) =>
    (readIncrement? rest).map fun (increment, rest) => (chomping, increment, rest)

structure BlockGap where
  breaks : Nat
  deepest : Nat
  cursor : Cursor

def readBlockGap (indent : Option Nat) (breaks deepest : Nat) :
    List Char → Place → Option BlockGap
  | [], place => some ⟨breaks, max deepest place.column, ⟨[], place⟩⟩
  | c :: rest, place =>
    let before := indent.all fun indent => place.column < indent
    if c = ' ' && before then readBlockGap indent breaks deepest rest (place.after c)
    else if c = '\t' && before then none
    else
      let deepest := max deepest place.column
      if isBreak c then readBlockGap indent (breaks + 1) deepest rest (place.after c)
      else some ⟨breaks, deepest, ⟨c :: rest, place⟩⟩

structure BlockText where
  text : List Char := []
  pending : Bool := false
  emptyLines : Nat := 0
  spaced : Bool := false

-- The text with another line. Folding turns a line break into a space unless one of the two
-- lines begins with spacing, or drops it where empty lines follow.
def BlockText.add (block : BlockText) (literal : Bool) (line : List Char) : BlockText :=
  let spaced := line.head?.any isSpacing
  let joint :=
    if !literal && block.pending && !block.spaced && !spaced then
      if block.emptyLines = 0 then [' '] else []
    else if block.pending then ['\n'] else []
  ⟨line.reverse ++ List.replicate block.emptyLines '\n' ++ joint ++ block.text, false, 0, spaced⟩

def BlockText.finish (block : BlockText) (chomping : Chomping) : String :=
  let last := if block.pending && chomping ≠ .strip then ['\n'] else []
  let after := if chomping = .keep then List.replicate block.emptyLines '\n' else []
  String.ofList (after ++ last ++ block.text).reverse

def readBlockLines (literal : Bool) (indent : Nat) (block : BlockText) (cursor : Cursor) :
    (fuel : Nat) → Option (BlockText × Cursor)
  | 0 => none
  | fuel + 1 =>
    if cursor.place.column ≠ indent || cursor.rest.isEmpty then some (block, cursor)
    else
      let line := cursor.rest.takeWhile fun c => !isBreak c
      let block := block.add literal line
      let cursor := cursor.skipMany line.length
      if cursor.rest.isEmpty then some (block, cursor)
      else
        let next := cursor.skip
        match readBlockGap (some indent) 0 0 next.rest next.place with
        | none => none
        | some gap =>
          readBlockLines literal indent
            { block with pending := true, emptyLines := gap.breaks } gap.cursor fuel

def readBlock (literal : Bool) (floor : Nat) (cursor : Cursor) : Option ScalarRead :=
  match readBlockMarks? cursor.rest with
  | none => none
  | some (chomping, increment, rest) =>
    let cursor := cursor.skipMany (cursor.rest.length - rest.length)
    let cursor := cursor.skipBlanksAndComment
    match cursor.rest with
    | c :: _ =>
      let cursor := cursor.skip
      if !isBreak c || cursor.rest.head? = some '\t' then none
      else
        let known := increment.map fun increment => floor - 1 + increment
        match readBlockGap known 0 0 cursor.rest cursor.place with
        | none => none
        | some gap =>
          let indent := known.getD (max (max gap.deepest floor) 1)
          (readBlockLines literal indent { emptyLines := gap.breaks } gap.cursor
            (cursor.rest.length + 1)).map fun (block, cursor) =>
              ⟨block.finish chomping, cursor, true⟩
    | [] => some ⟨"", cursor, true⟩

end TopicRouting.Yaml
