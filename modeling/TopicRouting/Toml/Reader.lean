import TopicRouting.Toml.Edition

set_option autoImplicit false

namespace TopicRouting.Toml

def skipVoid (edition : Edition) (commenting : Bool) : List Char → Option (List Char)
  | [] => some []
  | '\n' :: rest => skipVoid edition false rest
  | '\r' :: '\n' :: rest => skipVoid edition false rest
  | c :: rest =>
    if commenting then if edition.isCommentChar c then skipVoid edition true rest else none
    else if isBlankChar c then skipVoid edition false rest
    else if c = '#' then skipVoid edition true rest
    else some (c :: rest)

def finishLine (edition : Edition) (characters : List Char) : Option (List Char) :=
  let rest := match characters.dropWhile isBlankChar with
    | '#' :: rest => rest.dropWhile edition.isCommentChar
    | rest => rest
  match rest with
  | [] => some []
  | '\n' :: rest => some rest
  | '\r' :: '\n' :: rest => some rest
  | _ => none

def readKeyPart (characters : List Char) : Option (String × List Char) :=
  match characters with
  | '"' :: rest => readBasic [] rest
  | '\'' :: rest => readLiteral [] rest
  | _ =>
    let part := characters.takeWhile isKeyChar
    if part.isEmpty then none
    else some (String.ofList part, characters.dropWhile isKeyChar)

def readKey : (limit : Nat) → List Char → Option (List String × String × List Char)
  | 0, _ => none
  | limit + 1, characters =>
    match readKeyPart (characters.dropWhile isBlankChar) with
    | none => none
    | some (part, rest) =>
      match rest.dropWhile isBlankChar with
      | '.' :: rest =>
        (readKey limit rest).map fun (path, last, rest) => (part :: path, last, rest)
      | rest => some ([], part, rest)

mutual

def readValue (edition : Edition) : (fuel depth : Nat) → List Char → Option (Toml × List Char)
  | 0, _, _ => none
  | fuel + 1, depth, characters =>
    match characters with
    | '[' :: rest =>
      match depth with
      | 0 => none
      | depth + 1 =>
        (readItems edition fuel depth rest).map fun (items, rest) => (.array items, rest)
    | '\x7b' :: rest =>
      match depth, rest.dropWhile isBlankChar with
      | 0, _ => none
      | _ + 1, '\x7d' :: rest => some (.table .inlined [], rest)
      | depth + 1, rest =>
        (readPairs edition fuel depth [] rest).map fun (entries, rest) =>
          (.table .inlined entries, rest)
    | '"' :: _ | '\'' :: _ =>
      (readString characters).map fun (text, rest) => (.string text, rest)
    | _ => edition.readBare characters

def readItems (edition : Edition) : (fuel depth : Nat) → List Char → Option (List Toml × List Char)
  | 0, _, _ => none
  | fuel + 1, depth, characters =>
    match skipVoid edition false characters with
    | none => none
    | some (']' :: rest) => some ([], rest)
    | some start =>
      match readValue edition fuel depth start with
      | none => none
      | some (item, rest) =>
        match skipVoid edition false rest with
        | some (',' :: rest) =>
          (readItems edition fuel depth rest).map fun (items, rest) => (item :: items, rest)
        | some (']' :: rest) => some ([item], rest)
        | _ => none

def readPairs (edition : Edition) :
    (fuel depth : Nat) → TomlEntries → List Char → Option (TomlEntries × List Char)
  | 0, _, _, _ => none
  | fuel + 1, depth, entries, characters =>
    match readKey (edition.bound characters) characters with
    | some (path, key, '=' :: rest) =>
      match readValue edition fuel depth (rest.dropWhile isBlankChar) with
      | none => none
      | some (value, rest) =>
        match entries.assign path key value, rest.dropWhile isBlankChar with
        | some entries, ',' :: rest => readPairs edition fuel depth entries rest
        | some entries, '\x7d' :: rest => some (entries, rest)
        | _, _ => none
    | _ => none

end

def readPair (edition : Edition) (characters : List Char) : Option (Pair × List Char) :=
  match readKey (edition.bound characters) characters with
  | some (path, key, '=' :: rest) =>
    (readValue edition (2 * rest.length + 2) (edition.bound rest)
      (rest.dropWhile isBlankChar)).map fun (value, rest) => (⟨path, key, value⟩, rest)
  | _ => none

def readHeader (edition : Edition) (characters : List Char) : Option (Section × List Char) :=
  match characters with
  | '[' :: rest =>
    match readKey (edition.bound rest) rest with
    | some (path, key, ']' :: ']' :: rest) => some (⟨path ++ [key], true, []⟩, rest)
    | _ => none
  | rest =>
    match readKey (edition.bound rest) rest with
    | some (path, key, ']' :: rest) => some (⟨path ++ [key], false, []⟩, rest)
    | _ => none

def readLines (edition : Edition) : (fuel : Nat) → (current : Section) → (pairs : List Pair) →
    List Char → Option (List Section)
  | 0, _, _, _ => none
  | fuel + 1, current, pairs, characters =>
    match skipVoid edition false characters with
    | none => none
    | some [] => some [{ current with pairs := pairs.reverse }]
    | some ('[' :: rest) =>
      match readHeader edition rest with
      | none => none
      | some (next, rest) =>
        (finishLine edition rest).bind fun rest =>
          (readLines edition fuel next [] rest).map fun others =>
            { current with pairs := pairs.reverse } :: others
    | some start =>
      match readPair edition start with
      | none => none
      | some (pair, rest) =>
        (finishLine edition rest).bind fun rest =>
          readLines edition fuel current (pair :: pairs) rest

def read? (edition : Edition) (text : String) : Option TomlEntries :=
  let characters := match text.toList with
    | '\ufeff' :: rest => rest
    | rest => rest
  (readLines edition (characters.length + 1) ⟨[], false, []⟩ [] characters).bind
    edition.assemble

end TopicRouting.Toml
