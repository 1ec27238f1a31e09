import TopicRouting.Log.Directive

/-!
Log filters: lists of directives with commas between them. The most specific rule that is about
an event decides about it: the one with the longest target that starts the event's target, and
of those one that names a field of the event. No event comes from within a span, so directives
about a span and about the value of a field only show in the text of a filter.
-/

set_option autoImplicit false

namespace TopicRouting

structure EventRule where
  target : Option String
  field : Option String
  threshold : Threshold
deriving DecidableEq, Repr

namespace EventRule

def ofDirective? (directive : Directive) : Option EventRule :=
  if directive.span.isSome || directive.field.any fun field => field.value.isSome then none
  else some ⟨directive.target, directive.field.map FieldFilter.name, directive.threshold⟩

def display (rule : EventRule) : String :=
  Directive.label rule.target (rule.field.map fun name => "\x7b" ++ name ++ "\x7d") rule.threshold

def order (a b : EventRule) : Ordering :=
  (compare (a.target.map String.utf8ByteSize) (b.target.map String.utf8ByteSize)).then
    ((compare a.field.isSome b.field.isSome).then
      ((compare a.target b.target).then (compare a.field b.field)))

-- Whether an event has a field; its message is one.
def hasField (event : Event) (name : String) : Bool :=
  name == "message" || event.fields.any fun field => field.1 == name

def concerns (rule : EventRule) (event : Event) : Bool :=
  (rule.target.all fun start => start.toList.isPrefixOf event.origin.target.toList)
    && rule.field.all (hasField event)

end EventRule

-- What is active of a filter's directives, the most specific first, and no two that differ in
-- the threshold alone.
structure LogFilter where
  rules : List EventRule
  narrow : List Directive
deriving DecidableEq, Repr

namespace LogFilter

def insert {α : Type} (order : α → α → Ordering) (item : α) : List α → List α
  | [] => [item]
  | held :: rest =>
    match order item held with
    | .eq => item :: rest
    | .gt => item :: held :: rest
    | .lt => held :: insert order item rest

def arrange {α : Type} (order : α → α → Ordering) (items : List α) : List α :=
  items.foldl (fun placed item => insert order item placed) []

def ofDirectives (directives : List Directive) : LogFilter :=
  let narrow := directives.filter Directive.isNarrow
  let plain := directives.filter fun directive => !directive.isNarrow
  ⟨arrange EventRule.order ((plain ++ narrow).filterMap EventRule.ofDirective?),
    arrange Directive.order narrow⟩

def pieces (text : String) : List String := (text.splitOn ",").filter (· ≠ "")

def parse (text : String) : Except FilterError LogFilter :=
  match (pieces text).mapM Directive.parse with
  | .ok directives => .ok (ofDirectives directives)
  | .error error => .error error

-- Reads a filter, leaving out every directive that is none; if none is left, errors pass.
def parseLossy (text : String) : LogFilter :=
  match (pieces text).filterMap fun piece => (Directive.parse piece).toOption with
  | [] => ofDirectives [⟨none, none, none, some .error⟩]
  | directives => ofDirectives directives

def display (filter : LogFilter) : String :=
  ",".intercalate
    (filter.rules.map EventRule.display ++ filter.narrow.map Directive.display)

def passes (filter : LogFilter) (event : Event) : Bool :=
  match filter.rules.find? fun rule => rule.concerns event with
  | some rule => rule.threshold.passes event.level
  | none => false

end LogFilter

end TopicRouting
