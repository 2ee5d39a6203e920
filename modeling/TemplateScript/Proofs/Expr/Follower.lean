import TemplateScript.Proofs.Expr.Reading
import TemplateScript.Proofs.Expr.Writing

/-!
# What follows an operand

Behind an operand stands an operator, a suffix, or a sign that ends it. Each is taken by one level
of the grammar, and all tighter levels reject it. So a reader of a level stops in front of whatever
a looser level takes.
-/

namespace TemplateScript

/-- The marks that may follow an operand, each with the level that takes it. -/
def followers : List (String × Nat) :=
  [(")", 0), ("]", 0), ("\x7d", 0), (",", 0), (";", 0), ("or", 1), ("and", 2), ("==", 3),
    ("~=", 3), ("<=", 3), (">=", 3), ("<", 3), (">", 3), ("..", 4), ("+", 5), ("-", 5), ("*", 6),
    ("/", 6), ("//", 6), ("%", 6), ("^", 8), ("[", 9), ("(", 9), (":", 9)]

/-- What follows is taken by a level below `level` only, if anything follows. -/
def Stops (level : Nat) (more : List Lexeme) : Prop :=
  ∀ t rest, more = t :: rest → ∃ spelling k, (spelling, k) ∈ followers ∧ k < level ∧
    t = .mark spelling

theorem stops_nil (level : Nat) : Stops level [] := fun _ _ h => nomatch h

theorem stops_mark {level : Nat} {spelling : String} {k : Nat} (h : (spelling, k) ∈ followers)
    (hk : k < level) (rest : List Lexeme) : Stops level (.mark spelling :: rest) := by
  intro t more heq
  obtain ⟨rfl, -⟩ := List.cons.inj heq
  exact ⟨spelling, k, h, hk, rfl⟩

/-- A mark that ends an operand stops every level. -/
theorem stops_end {spelling : String} (h : (spelling, 0) ∈ followers) (rest : List Lexeme) :
    Stops 1 (.mark spelling :: rest) :=
  stops_mark h (by decide) rest

theorem Stops.mono {level level' : Nat} {more : List Lexeme} (h : Stops level more)
    (hle : level ≤ level') : Stops level' more := by
  intro t rest heq
  obtain ⟨spelling, k, hmem, hk, ht⟩ := h t rest heq
  exact ⟨spelling, k, hmem, Nat.lt_of_lt_of_le hk hle, ht⟩

/-- No suffix and no unary operator stands at the level of the power. -/
theorem Stops.unary {more : List Lexeme} (h : Stops 8 more) : Stops 7 more := by
  intro t rest heq
  obtain ⟨spelling, k, hmem, hk, ht⟩ := h t rest heq
  have hall : followers.all fun p => p.2 < 8 → p.2 < 7 := by decide
  exact ⟨spelling, k, hmem, of_decide_eq_true (List.all_eq_true.mp hall _ hmem) hk, ht⟩

/-- A rule that takes none of the marks of a looser level is rejected in front of them. -/
theorem Stops.rejects_token {level : Nat} {more : List Lexeme} (h : Stops level more)
    {length : List Char → Nat} (hnil : length [] = 0) 
    (hdenies : ∀ p ∈ followers, p.2 < level → Token.Denies length (.mark p.1)) :
    Reader.Rejects Stands (Reader.token length) more := by
  cases more with
  | nil => exact Reader.rejects_token_nil hnil
  | cons t rest =>
      obtain ⟨spelling, k, hmem, hk, rfl⟩ := h t rest rfl
      exact Reader.rejects_token (hdenies _ hmem hk)

/-- The same for a rule that sees no further than a blank, where the marks can be looked through. -/
theorem Stops.rejects_local {level : Nat} {more : List Lexeme} (h : Stops level more)
    {length : List Char → Nat} (hlocal : Token.Local length) (hnil : length [] = 0)
    (hdenies : followers.all fun p => p.2 < level → length p.1.toList = 0) :
    Reader.Rejects Stands (Reader.token length) more :=
  h.rejects_token hnil fun p hmem hk =>
    hlocal.denies (of_decide_eq_true (List.all_eq_true.mp hdenies p hmem) hk)

end TemplateScript
