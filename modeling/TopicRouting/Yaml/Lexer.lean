import TopicRouting.Yaml.Scalar

/-!
Cutting a YAML text into tokens. Whether a scalar or a collection is the key of a mapping shows
only at the colon behind it, so the place of a possible key is remembered, and the tokens for
the key and the mapping are put there afterwards. Indentation begins and ends block
collections, but not within a flow collection.
-/

set_option autoImplicit false

namespace TopicRouting.Yaml

structure PossibleKey where
  place : Place
  index : Nat
  required : Bool
deriving DecidableEq, Repr

structure Lexer where
  cursor : Cursor
  tokens : List Token := []
  columns : List Nat := []
  possible : Option PossibleKey := none
  outer : List (Option PossibleKey) := []
  keyAllowed : Bool := true
  quotedEnd : Option Nat := none

namespace Lexer

def inFlow (lexer : Lexer) : Bool := !lexer.outer.isEmpty

def floor (lexer : Lexer) : Nat :=
  match lexer.columns with
  | [] => 0
  | column :: _ => column + 1

def add (token : Token) (lexer : Lexer) : Lexer :=
  { lexer with tokens := token :: lexer.tokens }

def addAt (index : Nat) (token : Token) (lexer : Lexer) : Lexer :=
  let later := lexer.tokens.length - index
  { lexer with tokens := lexer.tokens.take later ++ token :: lexer.tokens.drop later }

def skipMany (count : Nat) (lexer : Lexer) : Lexer :=
  { lexer with cursor := lexer.cursor.skipMany count }

def allowKey (allowed : Bool) (lexer : Lexer) : Lexer := { lexer with keyAllowed := allowed }

def forgetKey (lexer : Lexer) : Option Lexer :=
  if lexer.possible.any PossibleKey.required then none
  else some { lexer with possible := none }

def rememberKey (lexer : Lexer) : Option Lexer :=
  if lexer.keyAllowed then
    let place := lexer.cursor.place
    let required := lexer.inFlow && lexer.columns.head? = some place.column
    lexer.forgetKey.map fun lexer =>
      { lexer with possible := some ⟨place, lexer.tokens.length, required⟩ }
  else some lexer

def isStale (place : Place) (key : PossibleKey) : Bool :=
  key.place.line < place.line || key.place.index + 1024 < place.index

def forgetStaleKeys (lexer : Lexer) : Option Lexer :=
  let stale := isStale lexer.cursor.place
  if (lexer.possible :: lexer.outer).any fun held =>
      held.any fun key => stale key && key.required then
    none
  else
    let fresh := fun held : Option PossibleKey => held.filter fun key => !stale key
    some { lexer with possible := fresh lexer.possible, outer := lexer.outer.map fresh }

def indentTo (column index : Nat) (token : Token) (lexer : Lexer) : Lexer :=
  if lexer.inFlow || column < lexer.floor then lexer
  else { lexer.addAt index token with columns := column :: lexer.columns }

def unindentTo (column : Nat) (lexer : Lexer) : Lexer :=
  if lexer.inFlow then lexer
  else
    let ended := lexer.columns.takeWhile fun begun => column < begun
    { lexer with
      tokens := List.replicate ended.length Token.blockEnd ++ lexer.tokens
      columns := lexer.columns.drop ended.length }

def unindentAll (lexer : Lexer) : Lexer :=
  if lexer.inFlow then lexer
  else
    { lexer with
      tokens := List.replicate lexer.columns.length Token.blockEnd ++ lexer.tokens
      columns := [] }

-- Passes spaces, line breaks and comments. In a block a key may begin after a line break;
-- where one may, a tab is no spacing.
def skipVoid (inFlow keyAllowed commenting : Bool) : List Char → Place → Bool × Cursor
  | [], place => (keyAllowed, ⟨[], place⟩)
  | c :: rest, place =>
    if isBreak c then
      skipVoid inFlow (keyAllowed || !inFlow) false rest (place.after c)
    else if commenting || c = ' ' || (c = '\t' && (inFlow || !keyAllowed)) then
      skipVoid inFlow keyAllowed commenting rest (place.after c)
    else if c = '#' then skipVoid inFlow keyAllowed true rest (place.after c)
    else (keyAllowed, ⟨c :: rest, place⟩)

def leaveBlocks (lexer : Lexer) : Option Lexer :=
  (lexer.unindentAll.forgetKey).map (allowKey false)

def readVersion (cursor : Cursor) : Option Cursor :=
  let cursor := cursor.skipWhile isSpacing
  let major := cursor.rest.takeWhile Char.isDigit
  match (cursor.skipWhile Char.isDigit).rest with
  | '.' :: _ =>
    let cursor := (cursor.skipWhile Char.isDigit).skip
    let minor := cursor.rest.takeWhile Char.isDigit
    if major.isEmpty || 9 < major.length || minor.isEmpty || 9 < minor.length then none
    else some (cursor.skipWhile Char.isDigit)
  | _ => none

def isTagMark (c : Char) : Bool := ";/?:@&=+$,.!~*'()[]".contains c

def readTagText (read : List Char) (fuel : Nat) (cursor : Cursor) : Option (List Char × Cursor) :=
  match fuel, cursor.rest with
  | fuel + 1, '%' :: a :: b :: _ =>
    match readHex? [a, b] with
    | some code =>
      if code < 0x80 then
        readTagText (Char.ofNat code :: read) fuel (cursor.skipMany 3)
      else none
    | none => none
  | fuel + 1, c :: _ =>
    if c = '%' then none
    else if isNameChar c || isTagMark c then readTagText (c :: read) fuel cursor.skip
    else some (read.reverse, cursor)
  | _, _ => some (read.reverse, cursor)

def readHandle (cursor : Cursor) : Option (List Char × Cursor) :=
  match cursor.rest with
  | '!' :: rest =>
    let name := rest.takeWhile isNameChar
    let cursor := cursor.skipMany (name.length + 1)
    match cursor.rest with
    | '!' :: _ => some ('!' :: (name ++ ['!']), cursor.skip)
    | _ => some ('!' :: name, cursor)
  | _ => none

def readHandleDeclaration (cursor : Cursor) : Option Cursor :=
  match readHandle (cursor.skipWhile isSpacing) with
  | none => none
  | some (handle, cursor) =>
    if handle ≠ ['!'] && handle.getLast? ≠ some '!' then none
    else
      let cursor := cursor.skipWhile isSpacing
      match readTagText [] cursor.rest.length cursor with
      | some (text, cursor) =>
        if text.isEmpty || !startsApart cursor.rest then none else some cursor
      | none => none

def readDirective (cursor : Cursor) : Option Cursor :=
  let name := cursor.rest.takeWhile isNameChar
  let cursor := cursor.skipMany name.length
  if name.isEmpty || !startsApart cursor.rest then none
  else
    let value :=
      match String.ofList name with
      | "YAML" => readVersion cursor
      | "TAG" => readHandleDeclaration cursor
      | _ => some (cursor.skipWhile fun c => !isBreak c)
    value.bind fun cursor =>
      let cursor := cursor.skipBlanksAndComment
      match cursor.rest with
      | [] => some cursor
      | c :: _ => if isBreak c then some cursor.skip else none

def readName (cursor : Cursor) : Option (String × Cursor) :=
  let name := cursor.rest.takeWhile isNameChar
  let cursor := cursor.skipMany name.length
  let ended := startsApart cursor.rest || cursor.rest.head?.any ("?:,]\x7d%@".contains ·)
    || cursor.rest.head? = some (Char.ofNat 0x60)
  if name.isEmpty || !ended then none else some (String.ofList name, cursor)

def readTag (cursor : Cursor) : Option (Token × Cursor) :=
  let read : Option ((String × List Char) × Cursor) :=
    match cursor.rest with
    | '!' :: '<' :: _ =>
      (readTagText [] cursor.rest.length (cursor.skipMany 2)).bind fun (text, cursor) =>
        if text.isEmpty || cursor.rest.head? ≠ some '>' then none
        else some (("", text), cursor.skip)
    | _ =>
      (readHandle cursor).bind fun (handle, cursor) =>
        if 2 ≤ handle.length && handle.getLast? = some '!' then
          (readTagText [] cursor.rest.length cursor).bind fun (text, cursor) =>
            if text.isEmpty then none else some ((String.ofList handle, text), cursor)
        else
          (readTagText (handle.drop 1).reverse cursor.rest.length cursor).map
            fun (text, cursor) => ((if text.isEmpty then ("", ['!']) else ("!", text)), cursor)
  read.bind fun ((handle, text), cursor) =>
    if startsApart cursor.rest then some (.tag handle (String.ofList text), cursor) else none

def addNode (lexer : Lexer) (read : Cursor → Option (Token × Cursor)) : Option Lexer :=
  lexer.rememberKey.bind fun lexer =>
    (read lexer.cursor).map fun (token, cursor) =>
      { lexer.add token with cursor := cursor, keyAllowed := false }

def addPlain (lexer : Lexer) : Option Lexer :=
  lexer.rememberKey.bind fun lexer =>
    (readPlain lexer.inFlow lexer.floor [] none lexer.cursor.rest lexer.cursor.place).map
      fun read =>
        { lexer.add (.scalar true read.text) with
          cursor := read.cursor, keyAllowed := read.broken }

def addQuoted (single : Bool) (lexer : Lexer) : Option Lexer :=
  lexer.rememberKey.bind fun lexer =>
    (readQuoted single [] none lexer.cursor.skip (lexer.cursor.rest.length + 1)).map fun read =>
      { lexer.add (.scalar false read.text) with
        cursor := read.cursor, keyAllowed := false, quotedEnd := some read.cursor.place.index }

def addBlock (literal : Bool) (lexer : Lexer) : Option Lexer :=
  lexer.rememberKey.bind fun lexer =>
    (readBlock literal lexer.floor lexer.cursor.skip).map fun read =>
      { lexer.add (.scalar false read.text) with cursor := read.cursor, keyAllowed := true }

def beginFlow (token : Token) (lexer : Lexer) : Option Lexer :=
  lexer.rememberKey.bind fun lexer =>
    if 255 ≤ lexer.outer.length then none
    else
      some ((({ lexer with possible := none, outer := lexer.possible :: lexer.outer }.add
        token).skipMany 1).allowKey true)

def endFlow (token : Token) (lexer : Lexer) : Option Lexer :=
  lexer.forgetKey.map fun lexer =>
    let left := match lexer.outer with
      | [] => lexer
      | possible :: outer => { lexer with possible := possible, outer := outer }
    ((left.add token).skipMany 1).allowKey false

def addFlowEntry (lexer : Lexer) : Option Lexer :=
  lexer.forgetKey.map fun lexer => ((lexer.add .flowEntry).skipMany 1).allowKey true

def addBlockEntry (lexer : Lexer) : Option Lexer :=
  if lexer.inFlow || !lexer.keyAllowed then none
  else
    (lexer.indentTo lexer.cursor.place.column lexer.tokens.length
      .blockSequenceStart).forgetKey.map fun lexer =>
        ((lexer.add .blockEntry).skipMany 1).allowKey true

def addKey (lexer : Lexer) : Option Lexer :=
  if !lexer.inFlow && !lexer.keyAllowed then none
  else
    (lexer.indentTo lexer.cursor.place.column lexer.tokens.length
      .blockMappingStart).forgetKey.map fun lexer =>
        ((lexer.add .key).skipMany 1).allowKey (!lexer.inFlow)

def addValue (lexer : Lexer) : Option Lexer :=
  match lexer.possible with
  | some key =>
    let lexer := (lexer.addAt key.index .key).indentTo key.place.column key.index
      .blockMappingStart
    some ((({ lexer with possible := none }.add .value).skipMany 1).allowKey false)
  | none =>
    if !lexer.inFlow && !lexer.keyAllowed then none
    else
      let lexer := lexer.indentTo lexer.cursor.place.column lexer.tokens.length
        .blockMappingStart
      some (((lexer.add .value).skipMany 1).allowKey (!lexer.inFlow))

def endsKey (lexer : Lexer) (rest : List Char) : Bool :=
  startsApart rest
    || (lexer.inFlow
      && (rest.head?.any isFlowMark || lexer.quotedEnd = some lexer.cursor.place.index))

def addToken (lexer : Lexer) (c : Char) (rest : List Char) : Option Lexer :=
  match c with
  | '[' => lexer.beginFlow .flowSequenceStart
  | '\x7b' => lexer.beginFlow .flowMappingStart
  | ']' => lexer.endFlow .flowSequenceEnd
  | '\x7d' => lexer.endFlow .flowMappingEnd
  | ',' => lexer.addFlowEntry
  | '-' => if startsApart rest then lexer.addBlockEntry else lexer.addPlain
  | '?' => if startsApart rest then lexer.addKey else lexer.addPlain
  | ':' => if lexer.endsKey rest then lexer.addValue else lexer.addPlain
  | '*' =>
    lexer.addNode fun cursor =>
      (readName cursor.skip).map fun (name, cursor) => (.alias name, cursor)
  | '&' =>
    lexer.addNode fun cursor =>
      (readName cursor.skip).map fun (name, cursor) => (.anchor name, cursor)
  | '!' => lexer.addNode readTag
  | '|' => if lexer.inFlow then lexer.addPlain else lexer.addBlock true
  | '>' => if lexer.inFlow then lexer.addPlain else lexer.addBlock false
  | '\'' => lexer.addQuoted true
  | '"' => lexer.addQuoted false
  | c => if c = '%' || c = '@' || c.toNat = 0x60 then none else lexer.addPlain

-- Adds the next token, with the ends of the block collections that it is not part of. The
-- answer is `none` if there is no such token, and the state at the end of the text on the left.
def advance (lexer : Lexer) : Option (Lexer ⊕ Lexer) :=
  let (keyAllowed, cursor) :=
    skipVoid lexer.inFlow lexer.keyAllowed false lexer.cursor.rest lexer.cursor.place
  let reached := { lexer with cursor := cursor, keyAllowed := keyAllowed }
  reached.forgetStaleKeys.bind fun lexer =>
    let lexer := lexer.unindentTo lexer.cursor.place.column
    let starting := lexer.cursor.place.column = 0
    match lexer.cursor.rest with
    | [] => (lexer.unindentAll.forgetKey).map .inl
    | c :: rest =>
      if starting && c = '%' then
        lexer.leaveBlocks.bind fun lexer =>
          (readDirective lexer.cursor.skip).map fun cursor =>
            .inr { lexer.add .directive with cursor := cursor }
      else if starting && startsDocumentMark (c :: rest) then
        let mark := if c = '-' then Token.documentStart else .documentEnd
        lexer.leaveBlocks.map fun lexer => .inr ((lexer.add mark).skipMany 3)
      else (lexer.addToken c rest).map .inr

def finish (lexer : Lexer) : (fuel : Nat) → Option (List Token)
  | 0 => none
  | fuel + 1 =>
    match lexer.advance with
    | none => none
    | some (.inl done) => some done.tokens.reverse
    | some (.inr lexer) => lexer.finish fuel

end Lexer

def joinBreaks : List Char → List Char
  | '\r' :: '\n' :: rest => '\n' :: joinBreaks rest
  | c :: rest => c :: joinBreaks rest
  | [] => []

def tokens? (text : String) : Option (List Token) :=
  let characters := joinBreaks (text.toList.takeWhile (· ≠ '\x00'))
  Lexer.finish { cursor := ⟨characters, ⟨0, 0, 0⟩⟩ } (characters.length + 1)

end TopicRouting.Yaml
