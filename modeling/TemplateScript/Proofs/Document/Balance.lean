import TemplateScript.Document.Segment

/-!
# Balanced texts

What may stand between the braces of a directive: characters other than braces and quotes, complete
quoted strings, and balanced texts in braces. A scan for the closing brace passes over a balanced
text at any depth, so a directive whose expression is balanced ends at its own brace, whatever
follows it.
-/

namespace TemplateScript

/-- Characters other than braces and quotes. -/
def isPlain (c : Char) : Bool :=
  c != '\x7b' && c != '\x7d' && c != '"' && c != '\''

def isQuote (c : Char) : Bool :=
  c == '"' || c == '\''

/-- What may stand between two quotes: no line feed, and the quote only behind a backslash. -/
inductive QuotedBody (quote : Char) : List Char → Prop
  | nil : QuotedBody quote []
  | char {c : Char} {rest : List Char} (hquote : c ≠ quote) (hbackslash : c ≠ '\\')
      (hline : c ≠ '\n') (hrest : QuotedBody quote rest) : QuotedBody quote (c :: rest)
  | escaped {c : Char} {rest : List Char} (hline : c ≠ '\n') (hrest : QuotedBody quote rest) :
      QuotedBody quote ('\\' :: c :: rest)

inductive Balanced : List Char → Prop
  | nil : Balanced []
  | plain {c : Char} {rest : List Char} (hplain : isPlain c) (hrest : Balanced rest) :
      Balanced (c :: rest)
  | quoted {quote : Char} {body rest : List Char} (hquote : isQuote quote)
      (hbody : QuotedBody quote body) (hrest : Balanced rest) :
      Balanced (quote :: body ++ quote :: rest)
  | group {inner rest : List Char} (hinner : Balanced inner) (hrest : Balanced rest) :
      Balanced ('\x7b' :: inner ++ '\x7d' :: rest)

namespace Balanced

theorem append {left right : List Char} (hleft : Balanced left) (hright : Balanced right) :
    Balanced (left ++ right) := by
  induction hleft with
  | nil => exact hright
  | plain hplain _ ih => exact .plain hplain ih
  | quoted hquote hbody _ ih =>
      rw [List.append_assoc, List.cons_append]
      exact .quoted hquote hbody ih
  | group hinner _ _ ih =>
      rw [List.append_assoc, List.cons_append]
      exact .group hinner ih

theorem of_forall_isPlain {text : List Char} (h : ∀ c ∈ text, isPlain c) : Balanced text := by
  induction text with
  | nil => exact .nil
  | cons c rest ih =>
      exact .plain (h c List.mem_cons_self) (ih fun d hd => h d (List.mem_cons_of_mem c hd))

end Balanced

namespace Segment

theorem splitAtClosing_plain {c : Char} (hplain : isPlain c) (depth : Nat) (rest : List Char) :
    splitAtClosing depth .outside (c :: rest) =
      (splitAtClosing depth .outside rest).map fun (inner, after) => (c :: inner, after) := by
  simp only [isPlain, Bool.and_eq_true, bne_iff_ne, ne_eq] at hplain
  obtain ⟨⟨⟨hopen, hclose⟩, hdouble⟩, hsingle⟩ := hplain
  simp only [splitAtClosing, if_neg hclose, if_neg hopen, hdouble, hsingle, or_self, if_false]

theorem splitAtClosing_open (depth : Nat) (rest : List Char) :
    splitAtClosing depth .outside ('\x7b' :: rest) =
      (splitAtClosing (depth + 1) .outside rest).map fun (inner, after) =>
        ('\x7b' :: inner, after) :=
  rfl

theorem splitAtClosing_close_succ (depth : Nat) (rest : List Char) :
    splitAtClosing (depth + 1) .outside ('\x7d' :: rest) =
      (splitAtClosing depth .outside rest).map fun (inner, after) => ('\x7d' :: inner, after) :=
  rfl

theorem splitAtClosing_close_zero (rest : List Char) :
    splitAtClosing 0 .outside ('\x7d' :: rest) = some ([], rest) :=
  rfl

theorem splitAtClosing_quote {quote : Char} (hquote : isQuote quote) (depth : Nat)
    (rest : List Char) :
    splitAtClosing depth .outside (quote :: rest) =
      (splitAtClosing depth (.inside quote) rest).map fun (inner, after) =>
        (quote :: inner, after) := by
  rcases (by simpa [isQuote] using hquote : quote = '"' ∨ quote = '\'') with rfl | rfl <;> rfl

/-- A scan inside a quoted string leaves it at the closing quote. -/
theorem splitAtClosing_quotedBody {quote : Char} {body : List Char} (hquote : isQuote quote)
    (h : QuotedBody quote body) (depth : Nat) (rest : List Char) :
    splitAtClosing depth (.inside quote) (body ++ quote :: rest) =
      (splitAtClosing depth .outside rest).map fun (inner, after) =>
        (body ++ quote :: inner, after) := by
  induction h with
  | nil =>
      have hline : quote ≠ '\n' := by
        rintro rfl
        simp [isQuote] at hquote
      rw [List.nil_append, splitAtClosing, if_neg hline, if_pos rfl]
      rfl
  | char hne hbackslash hline _ ih =>
      rw [List.cons_append, splitAtClosing, if_neg hline, if_neg hne, if_neg hbackslash, ih,
        Option.map_map]
      rfl
  | @escaped c body hline _ ih =>
      have hbackslash : '\\' ≠ quote := by
        rintro rfl
        simp [isQuote] at hquote
      rw [List.cons_append, List.cons_append, splitAtClosing, if_neg (by decide), if_neg hbackslash,
        if_pos rfl, splitAtClosing, if_neg hline, ih, Option.map_map, Option.map_map]
      rfl

/-- A scan for the closing brace passes over a balanced text. -/
theorem splitAtClosing_balanced {text : List Char} (h : Balanced text) (depth : Nat)
    (rest : List Char) :
    splitAtClosing depth .outside (text ++ rest) =
      (splitAtClosing depth .outside rest).map fun (inner, after) => (text ++ inner, after) := by
  induction h generalizing depth rest with
  | nil => simp
  | plain hplain _ ih =>
      rw [List.cons_append, splitAtClosing_plain hplain, ih, Option.map_map]
      rfl
  | @quoted quote body inner hquote hbody _ ih =>
      rw [List.append_assoc, List.cons_append, List.cons_append, splitAtClosing_quote hquote,
        splitAtClosing_quotedBody hquote hbody, ih, Option.map_map, Option.map_map]
      simp [Function.comp_def]
  | @group inner others _ _ ihinner ih =>
      rw [List.append_assoc, List.cons_append, List.cons_append, splitAtClosing_open, ihinner,
        splitAtClosing_close_succ, ih]
      simp [Option.map_map, Function.comp_def]

/-- What a scan finds up to the closing brace is the expression of a directive. -/
theorem next_directive_of_scan {expression rest : List Char} (hne : expression ≠ [])
    (h : splitAtClosing 0 .outside (expression ++ '\x7d' :: rest) = some (expression, rest)) :
    next ((Segment.directive expression).render ++ rest) = (.directive expression, rest) := by
  obtain ⟨c, tail, rfl⟩ := List.exists_cons_of_ne_nil hne
  have hdirective : directive? ((Segment.directive (c :: tail)).render ++ rest)
      = some (.directive (c :: tail), rest) := by
    simp only [render, List.cons_append, List.append_assoc, List.nil_append, directive?]
    rw [← List.cons_append, h]
  rw [next, hdirective]
  rfl

/-- A balanced text and a closing brace after a mark are a directive. -/
theorem next_directive {expression : List Char} (hbalanced : Balanced expression)
    (hne : expression ≠ []) (rest : List Char) :
    next ((Segment.directive expression).render ++ rest) = (.directive expression, rest) := by
  refine next_directive_of_scan hne ?_
  rw [splitAtClosing_balanced hbalanced, splitAtClosing_close_zero]
  simp

end Segment

end TemplateScript
