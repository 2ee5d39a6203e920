import TemplateScript.Library.Plain
import TemplateScript.Proofs.Expr.RoundTrip
import TemplateScript.Proofs.Library.Display

/-!
# Quoted texts are literals

A text between double quotes is written as one string, so it is read as the literal of the text it
was made from, whatever characters stand in it. The conversion `%q` of a format writes texts so.
-/

namespace TemplateScript

theorem written_doubleQuoted (s : String) :
    Written [.string s] (doubleQuoted s).toList := by
  have htext : (doubleQuoted s).toList = (Lexeme.string s).spelling := by
    rw [doubleQuoted, String.toList_ofList]
    rfl
  have hspells : (Lexeme.string s).Spells (doubleQuoted s).toList :=
    htext ▸ Lexeme.spells_spelling rfl
  have hstands := Stands.cons hspells (List.forall_mem_nil _) (absurd rfl) .nil
  rw [List.append_nil, List.append_nil] at hstands
  exact ⟨[], _, (List.nil_append _).symm, List.forall_mem_nil _, hstands⟩

/-- What is no more than a literal but for locations is that literal. -/
theorem Expr.eq_literal_of_unlocated {e : Expr} {v : Value}
    (h : e.unlocated = .literal v none) : ∃ loc, e = .literal v loc := by
  cases e with
  | literal w loc =>
      obtain rfl : w = v := (Expr.literal.inj h).1
      exact ⟨loc, rfl⟩
  | _ => cases h

theorem parseExpr_doubleQuoted (s : String) :
    ∃ loc, parseExpr (doubleQuoted s) = .ok (.literal (.str s) loc) := by
  obtain ⟨found, later, hroot, hend, hrecovers⟩ :=
    Grammar.gives_root (.inl rfl) (.str s none) (written_doubleQuoted s)
  obtain ⟨loc, rfl⟩ := Expr.eq_literal_of_unlocated hrecovers.unlocated
  exact ⟨loc, parseExpr_of_gives_root hroot hend hrecovers.overlong⟩

/-- The conversion takes the text that a script sees of a value, which for a text is itself. -/
theorem format_quoted {v : Value} {text : String} (h : v.display = .ok text) :
    PlainMember.format.run [.str "%q", v] = .ok (.str (doubleQuoted text)) := by
  have hpieces : Format.pieces "%q".toList = [.conversion [] 'q'] := by decide
  have hconvert : Format.convert [] 'q' 2 v = .ok (doubleQuoted text).toList := by
    rw [Format.convert, if_neg (by decide), if_pos rfl, h]
    rfl
  have hfill : Format.fill [.conversion [] 'q'] 2 [v] = .ok (doubleQuoted text).toList := by
    rw [Format.fill, if_neg (by decide), hconvert]
    show Except.ok ((doubleQuoted text).toList ++ []) = _
    rw [List.append_nil]
  have hformat : Format.format "%q" [v] = .ok (doubleQuoted text) := by
    rw [Format.format, hpieces, hfill]
    show Except.ok (String.ofList (doubleQuoted text).toList) = _
    rw [String.ofList_toList]
  show Except.mapError _ (do return Value.str (← Format.format "%q" [v])) = _
  rw [hformat]
  rfl

/-- A text that a format quotes is read as the literal of that text. -/
theorem parseExpr_format_quoted (s : String) :
    ∃ text loc, PlainMember.format.run [.str "%q", .str s] = .ok (.str text) ∧
      parseExpr text = .ok (.literal (.str s) loc) := by
  obtain ⟨loc, hparse⟩ := parseExpr_doubleQuoted s
  exact ⟨doubleQuoted s, loc, format_quoted (Value.display_str s), hparse⟩

end TemplateScript
