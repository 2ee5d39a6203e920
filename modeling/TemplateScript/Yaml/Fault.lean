import TemplateScript.Number.Literal
import TemplateScript.Value.Calendar
import TemplateScript.Yaml.Source

/-!
# Faults of data

Why a source has no value. A malformed source has a fault that names what was being read, what is
wrong and where both are; its message shows the two places unless they are on one spot. A
well-formed one may hold a scalar that is no value of its tag, and a source with a character that
is never shown is not read at all.
-/

namespace TemplateScript.Yaml

/-- What has to be right before a source has a value. -/
inductive Level where
  | tokens | nodes | references | values
deriving DecidableEq, Repr

/-- What was being read when a fault was found. -/
inductive Activity where
  | simpleKey | directive | directiveUri | reference | anchor | tag | tagUri | blockScalar
  | doubleQuoted | quotedScalar | nextToken | node | blockNode | flowNode | blockCollection
  | blockMapping | flowSequence | flowMapping
  | singleDocument
  | duplicateAnchor (name : String)
  | mappingValue | orderedMap | pairs
deriving DecidableEq, Repr

def Activity.text : Activity → String
  | .simpleKey => "while scanning a simple key"
  | .directive => "while scanning a directive"
  | .directiveUri => "while parsing a directive"
  | .reference => "while scanning an alias"
  | .anchor => "while scanning an anchor"
  | .tag => "while scanning a tag"
  | .tagUri => "while parsing a tag"
  | .blockScalar => "while scanning a block scalar"
  | .doubleQuoted => "while scanning a double-quoted scalar"
  | .quotedScalar => "while scanning a quoted scalar"
  | .nextToken => "while scanning for the next token"
  | .node => "while parsing a node"
  | .blockNode => "while parsing a block node"
  | .flowNode => "while parsing a flow node"
  | .blockCollection => "while parsing a block collection"
  | .blockMapping => "while parsing a block mapping"
  | .flowSequence => "while parsing a flow sequence"
  | .flowMapping => "while parsing a flow mapping"
  | .singleDocument => "expected a single document in the stream"
  | .duplicateAnchor name => s!"found duplicate anchor {quoted name}; first occurrence"
  | .mappingValue => "while constructing a mapping"
  | .orderedMap => "while constructing an ordered map"
  | .pairs => "while constructing pairs"

inductive Problem where
  /-- A character, or the end of the source, stands where something else is needed. -/
  | expected (what : String) (found : Option Char)
  | missingColon
  | noToken (found : Option Char)
  | entryNotAllowed
  | keyNotAllowed
  | valueNotAllowed
  | zeroIndentation
  | unknownEscape (found : Option Char)
  | endOfStream
  | documentSeparator
  | malformedUri
  | duplicateVersion
  | incompatibleVersion
  | duplicateHandle (handle : String)
  | undefinedHandle (handle : String)
  /-- A token of this name stands where another part of the structure is needed. -/
  | unexpectedToken (what : String) (found : String)
  | undefinedReference (name : String)
  | secondOccurrence
  | anotherDocument
  | recursive
  /-- A node of this kind stands where another kind is needed. -/
  | unexpectedNode (what : String) (found : String)
  | notSingleItem (count : Nat)
  | unhashableKey
  | unknownTag (tag : String)
  | notAscii (first : Char) (start stop : Nat)
  | notBase64 (reason : String)
deriving DecidableEq, Repr

/-- A character as messages show it; the end of the source shows as the null character. -/
def shownChar (c : Option Char) : String :=
  quoted (c.getD '\x00').toString

namespace Problem

def text : Problem → String
  | .expected what found => s!"expected {what}, but found {shownChar found}"
  | .missingColon => "could not find expected ':'"
  | .noToken found => s!"found character {shownChar found} that cannot start any token"
  | .entryNotAllowed => "sequence entries are not allowed here"
  | .keyNotAllowed => "mapping keys are not allowed here"
  | .valueNotAllowed => "mapping values are not allowed here"
  | .zeroIndentation => "expected indentation indicator in the range 1-9, but found 0"
  | .unknownEscape found => s!"found unknown escape character {shownChar found}"
  | .endOfStream => "found unexpected end of stream"
  | .documentSeparator => "found unexpected document separator"
  | .malformedUri => "invalid UTF-8 in a URI escape sequence"
  | .duplicateVersion => "found duplicate YAML directive"
  | .incompatibleVersion => "found incompatible YAML document (version 1.* is required)"
  | .duplicateHandle handle => s!"duplicate tag handle {quoted handle}"
  | .undefinedHandle handle => s!"found undefined tag handle {quoted handle}"
  | .unexpectedToken what found => s!"expected {what} {quoted found}"
  | .undefinedReference name => s!"found undefined alias {quoted name}"
  | .secondOccurrence => "second occurrence"
  | .anotherDocument => "but found another document"
  | .recursive => "found unconstructable recursive node"
  | .unexpectedNode what found => s!"expected {what}, but found {found}"
  | .notSingleItem count => s!"expected a single mapping item, but found {count} items"
  | .unhashableKey => "found unhashable key"
  | .unknownTag tag => s!"could not determine a constructor for the tag {quoted tag}"
  | .notAscii first start stop =>
    let what := if stop = start + 1 then
        "character '" ++ String.ofList (Quoted.hexEscape first.toNat) ++ s!"' in position {start}"
      else s!"characters in position {start}-{stop - 1}"
    s!"failed to convert base64 data into ascii: 'ascii' codec can't encode {what}: " ++
      "ordinal not in range(128)"
  | .notBase64 reason => "failed to decode base64 data: " ++ reason

end Problem

structure Fault where
  level : Level
  /-- What was being read, from where. -/
  context : Option (Activity × Option Mark)
  problem : Problem
  mark : Mark
deriving DecidableEq, Repr

namespace Fault

/-- The message of a fault in a source. -/
def message (fault : Fault) (source : List Char) : String :=
  let context := match fault.context with
    | none => []
    | some (activity, none) => [activity.text]
    | some (activity, some mark) =>
      if mark.line = fault.mark.line ∧ mark.column = fault.mark.column then [activity.text]
      else [activity.text, mark.describe source]
  "\n".intercalate (context ++ [fault.problem.text, fault.mark.describe source])

end Fault

/-- Why a scalar has no value under its tag, or no character under its code. -/
inductive ContentFault where
  | literal (why : LiteralFault)
  | emptyNumber
  | notBoolean (word : String)
  | notTimestamp
  | calendar (why : CalendarFault)
  | code (n : Nat)
  /-- The code is that of the half of a surrogate pair, which a text of characters cannot hold. -/
  | surrogate (n : Nat)
deriving DecidableEq, Repr

def ContentFault.message : ContentFault → String
  | .literal why => why.message
  | .emptyNumber => "string index out of range"
  | .notBoolean word => quoted word
  | .notTimestamp => "'NoneType' object has no attribute 'groupdict'"
  | .calendar why => why.message
  | .code n =>
    if n < 0x80000000 then "chr() arg not in range(0x110000)"
    else "Python int too large to convert to C int"
  | .surrogate n => s!"code {n} is the half of a surrogate pair"

inductive LoadFault where
  | unprintable (code offset : Nat)
  | malformed (fault : Fault)
  | content (why : ContentFault)
deriving DecidableEq, Repr

namespace LoadFault

/-- The message of a fault of a source. -/
def message (source : List Char) : LoadFault → String
  | .unprintable code offset =>
    "unacceptable character #x" ++ String.ofList (hexPadded 4 code) ++
      ": special characters are not allowed\n  in \"<unicode string>\", " ++
      s!"position {offset}"
  | .malformed fault => fault.message source
  | .content why => why.message

end LoadFault

end TemplateScript.Yaml
