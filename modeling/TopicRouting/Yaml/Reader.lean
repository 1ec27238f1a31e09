import TopicRouting.Yaml.Basic
import TopicRouting.Yaml.Lexer

set_option autoImplicit false

namespace TopicRouting.Yaml

structure Reading where
  tokens : List Token
  anchors : List (String × Yaml)

abbrev Reader := StateT Reading Option

namespace Reader

def peek : Reader (Option Token) := fun reading => some (reading.tokens.head?, reading)

def skip : Reader Unit :=
  fun reading => some ((), { reading with tokens := reading.tokens.drop 1 })

def accept (token : Token) : Reader Bool := fun reading =>
  match reading.tokens with
  | next :: rest =>
    if next = token then some (true, { reading with tokens := rest }) else some (false, reading)
  | [] => some (false, reading)

def refuse {α : Type} : Reader α := fun _ => none

-- Reads a value behind an anchor, if there is one. The anchor holds its place among the others
-- from its beginning, and marks nothing fit before the value is complete.
def marking (name : Option String) (read : Reader Yaml) : Reader Yaml := fun reading =>
  match name with
  | none => read reading
  | some name =>
    let position := reading.anchors.length
    (read { reading with anchors := reading.anchors ++ [(name, .unfit)] }).map
      fun (value, reading) =>
        (value, { reading with anchors := reading.anchors.set position (name, value) })

def marked (name : String) : Reader Yaml := fun reading =>
  (reading.anchors.reverse.find? fun anchor => anchor.1 = name).map fun anchor =>
    (anchor.2, reading)

end Reader

structure Properties where
  anchor : Option String := none
  tag : Option (String × String) := none

def Properties.isEmpty (properties : Properties) : Bool :=
  properties.anchor.isNone && properties.tag.isNone

def readProperties : Reader Properties := do
  match ← Reader.peek with
  | some (.anchor name) =>
    Reader.skip
    match ← Reader.peek with
    | some (.tag handle suffix) =>
      Reader.skip
      return ⟨some name, some (handle, suffix)⟩
    | _ => return ⟨some name, none⟩
  | some (.tag handle suffix) =>
    Reader.skip
    match ← Reader.peek with
    | some (.anchor name) =>
      Reader.skip
      return ⟨some name, some (handle, suffix)⟩
    | _ => return ⟨none, some (handle, suffix)⟩
  | _ => return {}

def scalarValue (tag : Option (String × String)) (plain : Bool) (text : String) : Yaml :=
  if plain then
    match tag with
    | some (handle, suffix) => ofTagged handle suffix text
    | none => ofPlain text
  else .string text

def isMappingMark : Option Token → Bool
  | some .key | some .value | some .blockEnd => true
  | _ => false

mutual

-- Reads a node. A block collection may begin only if `block` holds, and a sequence that is
-- not indented only if `indentless` does.
def readNode : (fuel : Nat) → (block indentless : Bool) → Reader Yaml
  | 0, _, _ => Reader.refuse
  | fuel + 1, block, indentless => do
    match ← Reader.peek with
    | some (.alias name) =>
      Reader.skip
      Reader.marked name
    | _ =>
      let properties ← readProperties
      Reader.marking properties.anchor (readContent fuel block indentless properties)

def readContent : (fuel : Nat) → (block indentless : Bool) → Properties → Reader Yaml
  | 0, _, _, _ => Reader.refuse
  | fuel + 1, block, indentless, properties => do
    match ← Reader.peek with
    | some (.scalar plain text) =>
      Reader.skip
      return scalarValue properties.tag plain text
    | some .flowSequenceStart =>
      Reader.skip
      return .sequence (← readFlowItems fuel true)
    | some .flowMappingStart =>
      Reader.skip
      return ofWritten (← readFlowEntries fuel true)
    | next =>
      if next = some .blockEntry && indentless then
        return .sequence (← readIndentlessItems fuel)
      else if next = some .blockSequenceStart && block then
        Reader.skip
        return .sequence (← readBlockItems fuel)
      else if next = some .blockMappingStart && block then
        Reader.skip
        return ofWritten (← readBlockEntries fuel)
      else if properties.isEmpty then Reader.refuse
      else return scalarValue properties.tag true ""

def readBlockItems : (fuel : Nat) → Reader (List Yaml)
  | 0 => Reader.refuse
  | fuel + 1 => do
    if ← Reader.accept .blockEnd then return []
    else if ← Reader.accept .blockEntry then
      let next ← Reader.peek
      let item ←
        if next = some .blockEntry || next = some .blockEnd then pure .null
        else readNode fuel true false
      return item :: (← readBlockItems fuel)
    else Reader.refuse

def readIndentlessItems : (fuel : Nat) → Reader (List Yaml)
  | 0 => Reader.refuse
  | fuel + 1 => do
    if ← Reader.accept .blockEntry then
      let next ← Reader.peek
      let item ←
        if next = some .blockEntry || isMappingMark next then pure .null
        else readNode fuel true false
      return item :: (← readIndentlessItems fuel)
    else return []

def readBlockEntries : (fuel : Nat) → Reader (List (Yaml × Yaml))
  | 0 => Reader.refuse
  | fuel + 1 => do
    if ← Reader.accept .blockEnd then return []
    else
      let key ←
        if ← Reader.accept .key then
          if isMappingMark (← Reader.peek) then pure .null else readNode fuel true true
        else if (← Reader.peek) = some .value then pure .null
        else Reader.refuse
      let value ←
        if ← Reader.accept .value then
          if isMappingMark (← Reader.peek) then pure .null else readNode fuel true true
        else pure .null
      return (key, value) :: (← readBlockEntries fuel)

def readFlowValue : (fuel : Nat) → (close : Token) → Reader Yaml
  | 0, _ => Reader.refuse
  | fuel + 1, close => do
    if ← Reader.accept .value then
      let next ← Reader.peek
      if next = some .flowEntry || next = some close then return .null
      else readNode fuel false false
    else return .null

def readFlowEntries : (fuel : Nat) → (first : Bool) → Reader (List (Yaml × Yaml))
  | 0, _ => Reader.refuse
  | fuel + 1, first => do
    if ← Reader.accept .flowMappingEnd then return []
    else
      let separated ← if first then pure true else Reader.accept .flowEntry
      if !separated then Reader.refuse
      else if ← Reader.accept .flowMappingEnd then return []
      else
        let entry ←
          if ← Reader.accept .key then
            let next ← Reader.peek
            let bare := next = some .value || next = some .flowEntry
              || next = some .flowMappingEnd
            let key ← if bare then pure .null else readNode fuel false false
            pure (key, ← readFlowValue fuel .flowMappingEnd)
          else if (← Reader.peek) = some .value then
            pure (.null, ← readFlowValue fuel .flowMappingEnd)
          else pure (← readNode fuel false false, .null)
        return entry :: (← readFlowEntries fuel false)

def readFlowItems : (fuel : Nat) → (first : Bool) → Reader (List Yaml)
  | 0, _ => Reader.refuse
  | fuel + 1, first => do
    if ← Reader.accept .flowSequenceEnd then return []
    else
      let separated ← if first then pure true else Reader.accept .flowEntry
      if !separated then Reader.refuse
      else if ← Reader.accept .flowSequenceEnd then return []
      else
        let item ←
          if ← Reader.accept .key then
            let next ← Reader.peek
            let bare := next = some .value || next = some .flowEntry
              || next = some .flowSequenceEnd
            let key ←
              if bare then do
                Reader.skip
                pure .null
              else readNode fuel false false
            pure (ofWritten [(key, ← readFlowValue fuel .flowSequenceEnd)])
          else readNode fuel false false
        return item :: (← readFlowItems fuel false)

end

def skipEnds : List Token → List Token
  | .documentEnd :: rest => skipEnds rest
  | rest => rest

def skipDirectives : List Token → List Token
  | .directive :: rest => skipDirectives rest
  | rest => rest

def endsDocument : Option Token → Bool
  | none | some .directive | some .documentStart | some .documentEnd => true
  | _ => false

def readDocuments : (fuel : Nat) → (first : Bool) → List Token → Option (List Yaml)
  | 0, _, _ => none
  | fuel + 1, first, tokens =>
    let tokens := if first then tokens else skipEnds tokens
    match tokens with
    | [] => some []
    | next :: _ =>
      let marked := next = .directive || next = .documentStart
      let content :=
        if marked || !first then
          match skipDirectives tokens with
          | .documentStart :: rest => some rest
          | _ => none
        else some tokens
      match content with
      | none => none
      | some content =>
        let read :=
          if marked && endsDocument content.head? then some (.null, ⟨content, []⟩)
          else (readNode (4 * content.length + 4) true false).run ⟨content, []⟩
        match read with
        | none => none
        | some (document, reading) =>
          let rest := match reading.tokens with
            | .documentEnd :: rest => rest
            | rest => rest
          (readDocuments fuel false rest).map fun documents => document :: documents

def read? (text : String) : Option (List Yaml) :=
  (tokens? text).bind fun tokens => readDocuments (tokens.length + 1) true tokens

end TopicRouting.Yaml
