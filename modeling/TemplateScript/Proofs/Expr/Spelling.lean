import TemplateScript.Proofs.Expr.Reading
import TemplateScript.Proofs.Expr.Writing

/-!
# One way to write an expression

Each lexeme has a spelling, in which a string stands between double quotes with its escapes. The
lexemes of an expression, spelled with a blank behind each, make up a text that they are written as.
-/

namespace TemplateScript

namespace Escape

/-- What becomes of one character. -/
def encodeChar : Char → List Char
  | '\\' => ['\\', '\\']
  | '"' => ['\\', '"']
  | '\n' => ['\\', 'n']
  | c => [c]

/-- The three replacements come to one pass over the text: what one of them puts in is nothing that
a later one replaces. -/
theorem encode_eq_flatMap (text : List Char) : encode text = text.flatMap encodeChar := by
  simp only [encode, replaced, List.flatMap_assoc]
  refine congrArg (text.flatMap ·) (funext fun c => ?_)
  by_cases hbackslash : c = '\\'
  · subst hbackslash
    rfl
  by_cases hquote : c = '"'
  · subst hquote
    rfl
  by_cases hline : c = '\n'
  · subst hline
    rfl
  simp [encodeChar, hbackslash, hquote, hline]

theorem encode_cons (c : Char) (rest : List Char) :
    encode (c :: rest) = encodeChar c ++ encode rest := by
  rw [encode_eq_flatMap, encode_eq_flatMap, List.flatMap_cons]

theorem decode_encodeChar (c : Char) (rest : List Char) :
    decode (encodeChar c ++ rest) = c :: decode rest := by
  unfold encodeChar
  split
  · rfl
  · rfl
  · rfl
  · next hbackslash _ _ =>
      rw [List.singleton_append, decode]
      exact fun _ _ heq _ => hbackslash heq

theorem decode_encode (text : List Char) : decode (encode text) = text := by
  induction text with
  | nil => rfl
  | cons c rest ih => rw [encode_cons, decode_encodeChar, ih]

theorem quotedBody_encode (text : List Char) : QuotedBody '"' (encode text) := by
  induction text with
  | nil => exact .nil
  | cons c rest ih =>
      rw [encode_cons]
      unfold encodeChar
      split
      · exact .escaped (by decide) ih
      · exact .escaped (by decide) ih
      · exact .escaped (by decide) ih
      · next hbackslash hquote hline => exact .char hquote hbackslash hline ih

end Escape

namespace Lexeme

def spelling : Lexeme → List Char
  | .mark spelling | .name spelling => spelling.toList
  | .numeral n => Nat.toDigits 10 n
  | .string content => '"' :: Escape.encode content.toList ++ ['"']

/-- The lexeme is a mark or a name of the language, or holds its own text. -/
def isProper : Lexeme → Bool
  | .mark spelling => marks.contains spelling
  | .name spelling => Token.isName spelling.toList
  | .numeral _ | .string _ => true

theorem spells_spelling {t : Lexeme} (h : t.isProper) : t.Spells t.spelling := by
  cases t with
  | mark => exact .mark (List.contains_iff_mem.mp h)
  | name => exact .name h
  | numeral => exact .numeral
  | string content => exact .string rfl (Escape.quotedBody_encode _) (Escape.decode_encode _)

end Lexeme

/-- The lexemes with a blank behind each. -/
def spelled (ts : List Lexeme) : List Char :=
  ts.flatMap fun t => t.spelling ++ [' ']

theorem stands_spelled {ts : List Lexeme} (h : ∀ t ∈ ts, t.isProper) : Stands ts (spelled ts) := by
  induction ts with
  | nil => exact .nil
  | cons t rest ih =>
      have hgap : Gap [' '] := List.forall_mem_singleton.mpr rfl
      have hrest := ih fun u hu => h u (List.mem_cons_of_mem t hu)
      have hstands := Stands.cons (Lexeme.spells_spelling (h t List.mem_cons_self)) hgap
        (fun _ => List.cons_ne_nil ' ' []) hrest
      rwa [spelled, List.flatMap_cons, List.append_assoc]

section

variable {p : Lexeme → Prop}

theorem forall_mem_bracketed {left right : String} {ts : List Lexeme} (hleft : p (.mark left))
    (hright : p (.mark right)) (h : ∀ t ∈ ts, p t) : ∀ t ∈ bracketed left right ts, p t := by
  simp only [bracketed, List.mem_cons, List.mem_append, List.not_mem_nil, or_false]
  rintro t (rfl | ht | rfl)
  · exact hleft
  · exact h t ht
  · exact hright

theorem forall_mem_separated {separator : String} {parts : List (List Lexeme)}
    (hmark : p (.mark separator)) (h : ∀ ts ∈ parts, ∀ t ∈ ts, p t) :
    ∀ t ∈ separated separator parts, p t := by
  cases parts with
  | nil => exact fun _ ht => nomatch ht
  | cons first rest =>
      simp only [separated, List.mem_append, List.mem_flatMap, List.mem_cons]
      rintro t (ht | ⟨ts, hts, rfl | ht⟩)
      · exact h first List.mem_cons_self t ht
      · exact hmark
      · exact h ts (List.mem_cons_of_mem first hts) t ht

end

section

variable {separator : String}

theorem isProper_args {args : List Expr}
    (h : ∀ arg ∈ args, ∀ t ∈ arg.lexemes separator, t.isProper) :
    ∀ t ∈ bracketed "(" ")" (separated "," (lexemesOfAll separator args)), t.isProper := by
  rw [lexemesOfAll_eq_map]
  refine forall_mem_bracketed (by decide) (by decide) (forall_mem_separated (by decide) ?_)
  intro ts hts
  obtain ⟨arg, harg, rfl⟩ := List.mem_map.mp hts
  exact h arg harg

theorem isProper_fields {fields : List (Option Expr × Expr)}
    (hseparator : separator = "," ∨ separator = ";")
    (hkeys : ∀ field ∈ fields, ∀ key ∈ field.1, ∀ t ∈ key.lexemes separator, t.isProper)
    (hvalues : ∀ field ∈ fields, ∀ t ∈ field.2.lexemes separator, t.isProper) :
    ∀ t ∈ separated separator (lexemesOfFields separator fields), t.isProper := by
  rw [lexemesOfFields_eq_map]
  refine forall_mem_separated (by rcases hseparator with rfl | rfl <;> decide) ?_
  intro ts hts
  obtain ⟨⟨_ | key, value⟩, hfield, rfl⟩ := List.mem_map.mp hts
  · exact hvalues _ hfield
  · exact List.forall_mem_append.mpr
      ⟨forall_mem_bracketed (by decide) (by decide) (hkeys _ hfield key rfl),
        List.forall_mem_cons.mpr ⟨by decide, hvalues _ hfield⟩⟩

/-- Every lexeme of an expression can be written. -/
theorem Expr.Grouped.isProper (hseparator : separator = "," ∨ separator = ";") {e : Expr}
    (h : e.Grouped) : ∀ t ∈ e.lexemes separator, t.isProper := by
  have hbinary : ∀ op ∈ BinaryOp.known, (Lexeme.mark op.spelling).isProper := by decide
  induction h with
  | nil => exact List.forall_mem_singleton.mpr (by decide)
  | bool b => cases b <;> exact List.forall_mem_singleton.mpr (by decide)
  | int | str => exact List.forall_mem_singleton.mpr rfl
  | name hname => exact List.forall_mem_singleton.mpr hname
  | index _ _ _ _ ihobj ihkey =>
      exact List.forall_mem_append.mpr
        ⟨ihobj, forall_mem_bracketed (by decide) (by decide) ihkey⟩
  | call _ _ _ _ ihfn ihargs => exact List.forall_mem_append.mpr ⟨ihfn, isProper_args ihargs⟩
  | methodCall _ _ hname _ _ ihobj ihargs =>
      exact List.forall_mem_append.mpr ⟨ihobj, List.forall_mem_cons.mpr
        ⟨by decide, List.forall_mem_cons.mpr ⟨hname, isProper_args ihargs⟩⟩⟩
  | binary hop _ _ _ _ _ ihleft ihright =>
      exact List.forall_mem_append.mpr
        ⟨ihleft, List.forall_mem_cons.mpr ⟨hbinary _ hop, ihright⟩⟩
  | logical hop _ _ _ _ _ ihleft ihright =>
      refine List.forall_mem_append.mpr ⟨ihleft, List.forall_mem_cons.mpr ⟨?_, ihright⟩⟩
      rcases hop with rfl | rfl <;> decide
  | unary hop _ _ _ ih =>
      refine List.forall_mem_cons.mpr ⟨?_, ih⟩
      rcases hop with rfl | rfl | rfl <;> decide
  | paren _ _ ih => exact forall_mem_bracketed (by decide) (by decide) ih
  | table _ _ _ ihkeys ihvalues =>
      exact forall_mem_bracketed (by decide) (by decide)
        (isProper_fields hseparator ihkeys ihvalues)

/-- Every expression whose operands bind tightly enough has a text that it is written as. -/
theorem Expr.Grouped.written_spelled (hseparator : separator = "," ∨ separator = ";") {e : Expr}
    (h : e.Grouped) : Written (e.lexemes separator) (spelled (e.lexemes separator)) :=
  ⟨[], _, rfl, List.forall_mem_nil _, stands_spelled (h.isProper hseparator)⟩

end

end TemplateScript
