import TopicRouting.Toml.Bare
import TopicRouting.Toml.EarlyBare
import TopicRouting.Toml.Section

/-!
Two editions of TOML. They agree on strings and keys and differ in numbers, dates and times, in
how deep a value may be nested, and in what headers may add to a table.
-/

set_option autoImplicit false

namespace TopicRouting.Toml

structure Edition where
  isCommentChar : Char → Bool
  readBare : List Char → Option (Toml × List Char)
  limit : Option Nat
  assemble : List Section → Option TomlEntries

namespace Edition

def full : Edition := ⟨isTextChar, Toml.readBare, some 79, joinSections⟩

def early : Edition := ⟨fun c => isTextChar c || c = '\x7f', Early.readBare, none, gather⟩

-- The limit for the rest of a text, which is no deeper and has no more keys than it has
-- characters.
def bound (edition : Edition) (characters : List Char) : Nat :=
  edition.limit.getD characters.length

end Edition

end TopicRouting.Toml
