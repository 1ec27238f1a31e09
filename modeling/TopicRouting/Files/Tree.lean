import TopicRouting.Failure.Basic

/-!
Files by path, as a value. A path is cut at its slashes; empty parts and single dots do not
count, and two dots lead back up. Every part of a path but the last has to be a directory. A
part has at most 255 bytes and a path at most 4095, none of them zero.
-/

set_option autoImplicit false

namespace TopicRouting

inductive FileEntry where
  | file (content : ByteArray)
  | directory

-- The files and directories there are. The parts above an entry are directories without
-- being listed.
structure FileTree where
  entries : List (List String × FileEntry)

namespace FileTree

def parts (path : String) : List String :=
  (path.splitOn "/").filter fun part => part ≠ "" && part ≠ "."

def namesDirectory (path : String) : Bool :=
  match (path.splitOn "/").getLast? with
  | some last => last = "" || last = "." || last = ".."
  | none => false

def entry? (tree : FileTree) (place : List String) : Option FileEntry :=
  match tree.entries.find? fun entry => entry.1 == place with
  | some (_, entry) => some entry
  | none =>
    if place.isEmpty || tree.entries.any fun entry => place.isPrefixOf entry.1 then
      some .directory
    else none

def longestPart : Nat := 255

def longestPath : Nat := 4095

def checkPath (path : String) : Except FileError Unit :=
  if path.toList.contains '\x00' then .error .nulInName
  else if path.isEmpty then .error .notFound
  else if longestPath < path.utf8ByteSize then .error .nameTooLong
  else .ok ()

def follow (tree : FileTree) : (place rest : List String) → Except FileError (List String)
  | place, [] => .ok place
  | place, part :: rest =>
    match tree.entry? place with
    | none => .error .notFound
    | some (.file _) => .error .notDirectory
    | some .directory =>
      if longestPart < part.utf8ByteSize then .error .nameTooLong
      else follow tree (if part = ".." then place.dropLast else place ++ [part]) rest

def reach (tree : FileTree) (path : String) : Except FileError (List String) :=
  match checkPath path with
  | .error error => .error error
  | .ok () => tree.follow [] (parts path)

def locate (tree : FileTree) (path : String) : Except FileError (List String × Option FileEntry) :=
  match tree.reach path with
  | .error error => .error error
  | .ok place =>
    match tree.entry? place with
    | some (.file content) =>
      if namesDirectory path then .error .notDirectory else .ok (place, some (.file content))
    | found => .ok (place, found)

def pathExists (tree : FileTree) (path : String) : Bool :=
  match tree.locate path with
  | .ok (_, some _) => true
  | _ => false

def readText (tree : FileTree) (path : String) : Except FileError String :=
  match tree.locate path with
  | .error error => .error error
  | .ok (_, none) => .error .notFound
  | .ok (_, some .directory) => .error .isDirectory
  | .ok (_, some (.file content)) =>
    match String.fromUTF8? content with
    | some text => .ok text
    | none => .error .notUnicode

def makeDirectories (tree : FileTree) : (place rest : List String) → Except FileError FileTree
  | _, [] => .ok tree
  | place, part :: rest =>
    if longestPart < part.utf8ByteSize then .error .nameTooLong
    else
      let next := if part = ".." then place.dropLast else place ++ [part]
      match tree.entry? next with
      | some .directory => makeDirectories tree next rest
      | some (.file _) => .error (if rest.isEmpty then .alreadyExists else .notDirectory)
      | none => makeDirectories ⟨tree.entries ++ [(next, .directory)]⟩ next rest

def parent? (path : String) : Option String :=
  match (path.splitOn "/").reverse.dropWhile fun part => part = "" || part = "." with
  | [] => none
  | _ :: above => some ("/".intercalate above.reverse)

def endsInDots (path : String) : Bool :=
  match ((path.splitOn "/").filter (· ≠ "")).getLast? with
  | some last => last = "." || last = ".."
  | none => false

-- Writes a text into a file, new or not. No slash may follow its name, whether or not there is
-- anything of that name.
def writeText (tree : FileTree) (path text : String) : Except FileError FileTree :=
  if namesDirectory path && !endsInDots path then
    match tree.reach path with
    | .error error => .error error
    | .ok _ => .error .isDirectory
  else
    match tree.locate path with
    | .error error => .error error
    | .ok (_, some .directory) => .error .isDirectory
    | .ok (place, _) =>
      if namesDirectory path then .error .notFound
      else
        .ok ⟨(place, .file text.toUTF8) :: tree.entries.filter fun entry => entry.1 != place⟩

def writeTextWithParents (tree : FileTree) (path text : String) : Except FileError FileTree :=
  match parent? path with
  | none => tree.writeText path text
  | some above =>
    match if above.isEmpty then .ok () else checkPath above with
    | .error error => .error error
    | .ok () =>
      match tree.makeDirectories [] (parts above) with
      | .error error => .error error
      | .ok tree => tree.writeText path text

def extension? (path : String) : Option String :=
  match (parts path).getLast? with
  | none => none
  | some name =>
    if name = ".." then none
    else
      match name.splitOn "." with
      | [] | [_] => none
      | ["", _] => none
      | pieces => pieces.getLast?

end FileTree

end TopicRouting
