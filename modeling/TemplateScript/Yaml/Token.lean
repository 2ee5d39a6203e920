import TemplateScript.Yaml.Source

/-!
# Tokens of data

The tokens that a source consists of. Those of a block collection stand for its indentation: it
begins where a line is indented deeper and ends where one is indented less.
-/

namespace TemplateScript.Yaml

/-- What a line before a document says about it. -/
inductive Directive where
  | version (major minor : Nat)
  /-- A handle stands for the beginning of tags. -/
  | handle (handle beginning : String)
  | other (name : String)
deriving DecidableEq, Repr

inductive TokenKind where
  | streamEnd
  | directive (d : Directive)
  | documentStart
  | documentEnd
  | blockSequenceStart
  | blockMappingStart
  | blockEnd
  | flowSequenceStart
  | flowSequenceEnd
  | flowMappingStart
  | flowMappingEnd
  | blockEntry
  | flowEntry
  | key
  | value
  | reference (name : String)
  | anchor (name : String)
  /-- A handle and the rest of a tag, or a whole tag without one. -/
  | tag (handle : Option String) (rest : String)
  /-- A plain text may stand for something else than a text. -/
  | scalar (text : List Char) (plain : Bool)
deriving DecidableEq, Repr

namespace TokenKind

/-- The name of a token in messages. -/
def name : TokenKind → String
  | .streamEnd => "<stream end>"
  | .directive _ => "<directive>"
  | .documentStart => "<document start>"
  | .documentEnd => "<document end>"
  | .blockSequenceStart => "<block sequence start>"
  | .blockMappingStart => "<block mapping start>"
  | .blockEnd => "<block end>"
  | .flowSequenceStart => "["
  | .flowSequenceEnd => "]"
  | .flowMappingStart => "\x7b"
  | .flowMappingEnd => "\x7d"
  | .blockEntry => "-"
  | .flowEntry => ","
  | .key => "?"
  | .value => ":"
  | .reference _ => "<alias>"
  | .anchor _ => "<anchor>"
  | .tag _ _ => "<tag>"
  | .scalar _ _ => "<scalar>"

end TokenKind

structure Token where
  kind : TokenKind
  start : Mark
  stop : Mark
deriving DecidableEq, Repr

end TemplateScript.Yaml
