import TopicRouting.Log.Expression
import TopicRouting.Log.Threshold
import TopicRouting.Text.Shortest

set_option autoImplicit false

namespace TopicRouting

inductive FilterError where
  | unknownLevel
  | malformedDirective
  | malformedField (fault : ExpressionFault)
deriving DecidableEq, Repr

def FilterError.message : FilterError → String
  | .unknownLevel =>
    "error parsing level filter: expected one of \"off\", \"error\", \"warn\", \"info\", "
      ++ "\"debug\", \"trace\", or a number 0-5"
  | .malformedDirective => "invalid filter directive"
  | .malformedField .malformed => "invalid field filter: error building NFA"
  | .malformedField .wordBoundary =>
    "invalid field filter: unsupported regex feature for DFAs: cannot build DFAs for regexes "
      ++ "with Unicode word boundaries; switch to ASCII word boundaries, or heuristically enable "
      ++ "Unicode word boundaries or use a different regex engine"

inductive FieldPattern where
  | truth (value : Bool)
  | float (value : Float)
  | notNumber
  | natural (value : Nat)
  | integer (value : Int)
  | pattern (text : String)
deriving DecidableEq, Repr

namespace FieldPattern

def read (text : String) : Except ExpressionFault FieldPattern :=
  if text = "true" then .ok (.truth true)
  else if text = "false" then .ok (.truth false)
  else
    match readUnsigned64? text, readSigned64? text, Decimal.read? text with
    | some value, _, _ => .ok (.natural value)
    | none, some value, _ => .ok (.integer value)
    | none, none, some .nan => .ok .notNumber
    | none, none, some value => .ok (.float value.toFloat)
    | none, none, none =>
      match Expression.fault? text with
      | none => .ok (.pattern text)
      | some fault => .error fault

def display : FieldPattern → String
  | .truth value => if value then "true" else "false"
  | .float value => Shortest.text value
  | .notNumber => "NaN"
  | .natural value => toString value
  | .integer value => toString value
  | .pattern text => text

def rank : FieldPattern → Nat
  | .truth _ => 0
  | .float _ => 1
  | .notNumber => 2
  | .natural _ => 3
  | .integer _ => 4
  | .pattern _ => 5

def order : FieldPattern → FieldPattern → Ordering
  | .truth a, .truth b => compare a b
  | .float a, .float b => if a < b then .lt else if b < a then .gt else .eq
  | .natural a, .natural b => compare a b
  | .integer a, .integer b => compare a b
  | .pattern a, .pattern b => compare a b
  | a, b => compare a.rank b.rank

end FieldPattern

structure FieldFilter where
  name : String
  value : Option FieldPattern
deriving DecidableEq, Repr

namespace FieldFilter

def read (text : String) : Except FilterError FieldFilter :=
  match text.splitOn "=" with
  | name :: value :: _ =>
    match FieldPattern.read value with
    | .ok value => .ok ⟨name, some value⟩
    | .error fault => .error (.malformedField fault)
  | _ => .ok ⟨text, none⟩

def display (field : FieldFilter) : String :=
  match field.value with
  | none => field.name
  | some value => field.name ++ "=" ++ value.display

def order (a b : FieldFilter) : Ordering :=
  (compare a.value.isSome b.value.isSome).then
    ((compare a.name b.name).then
      (match a.value, b.value with
      | some a, some b => a.order b
      | _, _ => .eq))

end FieldFilter

-- A threshold for the events whose target starts with a text, or for all events; a span and a
-- field narrow it down.
structure Directive where
  target : Option String
  span : Option String
  field : Option FieldFilter
  threshold : Threshold
deriving DecidableEq, Repr

namespace Directive

def label (target : Option String) (inner : Option String) (threshold : Threshold) : String :=
  let inner := (inner.map fun text => "[" ++ text ++ "]").getD ""
  match target.getD "" ++ inner with
  | "" => threshold.name
  | about => about ++ "=" ++ threshold.name

def display (directive : Directive) : String :=
  let field := directive.field.map fun field => "\x7b" ++ field.display ++ "\x7d"
  let inner :=
    if directive.span.isSome || field.isSome then
      some (directive.span.getD "" ++ field.getD "")
    else none
  label directive.target inner directive.threshold

def isNarrow (directive : Directive) : Bool := directive.span.isSome || directive.field.isSome

def startsName (c : Char) : Bool := isAlphanumeric c || c = '-' || c = ':' || c = '_'

def sizeOf (characters : List Char) : Nat := (String.ofList characters).utf8ByteSize

def cut (text : String) (start stop : Nat) : Except FilterError String :=
  match String.fromUTF8? (text.toUTF8.extract start stop) with
  | some part => .ok part
  | none => .error .malformedDirective

def readLevel (text : String) (start : Nat) : Except FilterError Threshold := do
  let level ← cut text start text.utf8ByteSize
  if level.isEmpty then return some .trace
  else
    match Threshold.ofName? level with
    | some threshold => return threshold
    | none => throw .unknownLevel

def readAfterSpan (text : String) (start : Nat) : List Char → Except FilterError Threshold
  | [] => .ok (some .trace)
  | c :: _ => if c = '=' then readLevel text (start + 1) else .error .malformedDirective

def readSpan (text : String) (target : Option String) (start : Nat) (characters : List Char) :
    Except FilterError Directive := do
  let isName := fun c : Char => c ≠ ']' && c ≠ '\x7b'
  let stop := start + sizeOf (characters.takeWhile isName)
  match characters.dropWhile isName with
  | ']' :: rest =>
    let span ← cut text start stop
    return ⟨target, some span, none, ← readAfterSpan text (stop + 1) rest⟩
  | _ :: rest =>
    let span ← cut text start stop
    let fieldStop := stop + 1 + sizeOf (rest.takeWhile (· ≠ '\x7d'))
    let field ← cut text (stop + 1) fieldStop
    match rest.dropWhile (· ≠ '\x7d') with
    | [] => throw .malformedDirective
    | _ :: rest =>
      if field.isEmpty then throw .malformedDirective
      else
        let field ← FieldFilter.read field
        match rest with
        | ']' :: rest =>
          let threshold ← readAfterSpan text (fieldStop + 2) rest
          return ⟨target, if span.isEmpty then none else some span, some field, threshold⟩
        | _ => throw .malformedDirective
  | [] => throw .malformedDirective

-- Reads a directive, which stands between commas. A text that is no level is a target of which
-- everything passes.
def parse (text : String) : Except FilterError Directive :=
  let characters := (trimBlanks text).toList
  match characters with
  | [] => .error .malformedDirective
  | '[' :: rest => readSpan text none 1 rest
  | first :: _ =>
    if !startsName first then .error .malformedDirective
    else do
      let isName := fun c : Char => c ≠ '=' && c ≠ '['
      let size := sizeOf (characters.takeWhile isName)
      match characters.dropWhile isName with
      | [] =>
        match Threshold.ofName? text with
        | some threshold => return ⟨none, none, none, threshold⟩
        | none => return ⟨some text, none, none, some .trace⟩
      | '=' :: _ =>
        let target ← cut text 0 size
        return ⟨some target, none, none, ← readLevel text (size + 1)⟩
      | _ :: rest =>
        let target ← cut text 0 size
        readSpan text (some target) (size + 1) rest

def order (a b : Directive) : Ordering :=
  (compare (a.target.map String.utf8ByteSize) (b.target.map String.utf8ByteSize)).then
    ((compare a.span.isSome b.span.isSome).then
      ((compare a.field.isSome b.field.isSome).then
        ((compare a.target b.target).then
          ((compare a.span b.span).then
            (match a.field, b.field with
            | some a, some b => a.order b
            | _, _ => .eq)))))

end Directive

end TopicRouting
