import TemplateScript.Document.Segment
import TemplateScript.Document.Tree

/-!
# Trees of documents

Every text is a document. Its tree has a node for each segment, placed where the segment begins in
the text, and the parts of a segment are leaves.
-/

namespace TemplateScript

namespace Tree

/-- Leaves for consecutive parts of a text. -/
def consecutive : Position → List (String × List Char) → List Tree
  | _, [] => []
  | position, (kind, text) :: rest =>
    leaf kind text position :: consecutive (position.advance text) rest

end Tree

namespace Segment

/-- The tree of a segment that begins at a position. -/
def toTree (position : Position) : Segment → Tree
  | .directive expression =>
    .branch "Directive" (Tree.consecutive position [("DirectiveMark", ['$', '\x7b']),
      ("DirectiveExpression", expression), ("DirectiveEnd", ['\x7d'])]) position
  | .escape c => .leaf "Escape" ['\\', c] position
  | .wikiLink page label =>
    let labelPart := match label with
      | some label => [("WikiLinkAlias", label)]
      | none => []
    .branch "WikiLink" (Tree.consecutive position
      ([("WikiLinkMark", ['[', '[']), ("WikiLinkPage", page)] ++ labelPart ++
        [("WikiLinkEnd", [']', ']'])])) position
  | .attribute name colon value =>
    .branch "Attribute" (Tree.consecutive position [("AttributeMark", ['[']),
      ("AttributeName", name), ("AttributeColon", colon), ("AttributeValue", value),
      ("AttributeEnd", [']'])]) position
  | .text content => .leaf "Text" content position

/-- The trees of consecutive segments. -/
def toTrees : Position → List Segment → List Tree
  | _, [] => []
  | position, segment :: rest =>
    segment.toTree position :: toTrees (position.advance segment.render) rest

end Segment

/-- The tree of a text. -/
def parseDocument (text : List Char) : Tree :=
  .branch "Document" (Segment.toTrees .start (Segment.split text)) .start

end TemplateScript
