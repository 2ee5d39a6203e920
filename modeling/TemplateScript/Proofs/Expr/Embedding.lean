import TemplateScript.Evaluation.Template
import TemplateScript.Proofs.Document.Border
import TemplateScript.Proofs.Expr.Balance

/-!
# Expressions in templates

A text that is an expression, between the marks of a directive, is a document with this directive
alone. So an expression may hold tables in tables and strings with braces, quotes and escapes in
them, and a template with it still ends the directive where the expression ends.
-/

namespace TemplateScript

/-- The tree of a template that is one directive. -/
def directiveDocument (expression : List Char) : Tree :=
  .branch "Document" [.branch "Directive" [
    .leaf "DirectiveMark" ['$', '\x7b'] ⟨1, 1⟩,
    .leaf "DirectiveExpression" expression ⟨1, 3⟩,
    .leaf "DirectiveEnd" ['\x7d'] (Position.advance ⟨1, 3⟩ expression)] ⟨1, 1⟩] ⟨1, 1⟩

theorem parseDocument_directive {expression : List Char} (hbalanced : Balanced expression)
    (hne : expression ≠ []) :
    parseDocument ('$' :: '\x7b' :: expression ++ ['\x7d']) = directiveDocument expression := by
  have hsplit := Segment.split_directive hbalanced hne []
  rw [List.append_nil, Segment.split_nil] at hsplit
  rw [parseDocument]
  exact congrArg (fun segments => Tree.branch "Document" (Segment.toTrees .start segments) .start)
    hsplit

/-- Every text that is an expression can be embedded in a template. -/
theorem parseTemplate_of_parseExpr {source : String} {e : Expr} (h : parseExpr source = .ok e) :
    parseTemplate (.str ("$\x7b" ++ source ++ "\x7d")) =
      .ok (directiveDocument source.toList) := by
  have hread : readExpr source.toList = .ok e := by
    cases hresult : readExpr source.toList with
    | ok found =>
        rw [parseExpr, hresult] at h
        exact congrArg Except.ok (Except.ok.inj h)
    | error why =>
        rw [parseExpr, hresult] at h
        cases h
  have hdocument := parseDocument_directive (balanced_of_readExpr hread) (ne_nil_of_readExpr hread)
  rw [parseTemplate, String.toList_append, String.toList_append]
  exact congrArg Except.ok hdocument

set_option maxRecDepth 4096 in
/-- A table in a table, with braces, quotes and an escaped quote in its strings. -/
theorem parseTemplate_of_nested_table :
    ∃ e, parseExpr "f\x7b['\x7d'] = \x7b\"\\\"\x7b\"\x7d\x7d" = .ok e ∧
      parseTemplate (.str ("$\x7b" ++ "f\x7b['\x7d'] = \x7b\"\\\"\x7b\"\x7d\x7d" ++ "\x7d")) =
        .ok (directiveDocument "f\x7b['\x7d'] = \x7b\"\\\"\x7b\"\x7d\x7d".toList) :=
  ⟨_, rfl, parseTemplate_of_parseExpr rfl⟩

end TemplateScript
