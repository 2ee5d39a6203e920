import TemplateScript.Proofs.Expr.Suffix

/-!
# Levels of the grammar

The rules of the grammar by their levels, the loosest first. A rule reads what the next tighter one
reads, if nothing of its own level follows. Rules that bind to the left read a chain, to which an
operator adds its right operand; those that bind to the right read one operator, whose right operand
is of the same level or, for the power, of the level of the unary operators.
-/

namespace TemplateScript

namespace Grammar

open Reader

/-- The rule of a level. -/
def reader (rules : Rules) : Nat → Reader Expr
  | 1 => expression rules
  | 2 => conjunction rules
  | 3 => comparison rules
  | 4 => concatenation rules
  | 5 => sum rules
  | 6 => product rules
  | 7 => unary rules
  | 8 => power rules
  | _ => suffixed rules

/-- The token of the binary operators of a level. -/
def operator : Nat → List Char → Nat
  | 1 => Token.keyword "or"
  | 2 => Token.keyword "and"
  | 3 => Token.oneOf ["==", "~=", "<=", ">=", "<", ">"]
  | 4 => Token.oneOf [".."]
  | 5 => Token.oneOf ["+", "-"]
  | 6 => Token.oneOf ["//", "*", "/", "%"]
  | _ => Token.oneOf ["^"]

/-- An operator of a level with its operand on the right. -/
def tail (rules : Rules) : Nat → Reader (Expr → Expr)
  | 1 => logicalTail "or_op" (operator 1) (conjunction rules)
  | 2 => logicalTail "and_op" (operator 2) (comparison rules)
  | 3 => binaryTail "compare_op" (operator 3) (concatenation rules)
  | 4 => binaryTail "concat_op" (operator 4) rules.concatenation
  | 5 => binaryTail "add_op" (operator 5) (product rules)
  | 6 => binaryTail "mul_op" (operator 6) (unary rules)
  | _ => binaryTail "pow_op" (operator 8) rules.unary

/-- The levels of the operators that bind to the left. -/
def leftward : List Nat := [1, 2, 3, 5, 6]

/-- The levels of the operators that bind to the right. -/
def rightwards : List Nat := [4, 8]

variable {rules : Rules} {more ts us : List Lexeme} {post : Expr → Prop}

theorem reader_leftward {level : Nat} (h : level ∈ leftward) :
    reader rules level = chained (reader rules (level + 1)) (tail rules level) := by
  simp only [leftward, List.mem_cons, List.not_mem_nil, or_false] at h
  rcases h with rfl | rfl | rfl | rfl | rfl <;> rfl

theorem reader_rightwards {level : Nat} (h : level ∈ rightwards) :
    reader rules level = rightward (reader rules (level + 1)) (tail rules level) := by
  simp only [rightwards, List.mem_cons, List.not_mem_nil, or_false] at h
  rcases h with rfl | rfl <;> rfl

theorem local_operator (level : Nat) : Token.Local (operator level) := by
  unfold operator
  split
  · exact Token.local_keyword "or"
  · exact Token.local_keyword "and"
  all_goals exact Token.local_oneOf (by decide)

/-! ### Nothing of a level follows -/

theorem rejects_tail {level : Nat} (hlevel : level ∈ leftward ++ rightwards)
    (h : Stops level more) : Rejects Behind (tail rules level) more := by
  have hdenies : ∀ level ∈ leftward ++ rightwards, (followers.all fun p =>
      p.2 < level → operator level p.1.toList = 0) ∧ operator level [] = 0 := by decide
  have hoperator := h.rejects_local (local_operator level) (hdenies level hlevel).2
    (hdenies level hlevel).1
  simp only [leftward, rightwards, List.cons_append, List.nil_append, List.mem_cons,
    List.not_mem_nil, or_false] at hlevel
  rcases hlevel with rfl | rfl | rfl | rfl | rfl | rfl | rfl <;>
    exact (hoperator.locatedToken _).spaced.bind _

theorem rejects_suffix (h : Stops 9 more) : Rejects Behind (spaced (suffix rules)) more := by
  have hpoint : Rejects Stands (discard (token (Token.single '.'))) more :=
    (h.rejects_local (Token.local_single (by decide)) rfl (by decide)).bind fun _ => pure ()
  have hsymbol : ∀ c : Char, isBlank c = false →
      (followers.all fun p => p.2 < 9 → Token.symbol c p.1.toList = 0) →
      Rejects Stands (symbol c) more := fun c hc hdenies =>
    (h.rejects_local (Token.local_symbol hc) rfl hdenies).bind fun _ => pure ()
  have hstring : Rejects Stands (token Token.string) more := by
    have hquote : ∀ p ∈ followers, p.1.toList.head?.all fun c => !isQuote c := by decide
    exact h.rejects_token rfl fun p hp _ => Token.denies_string_mark (hquote p hp)
  have hbrace : Rejects Stands (tableConstructor rules) more :=
    (((hsymbol '\x7b' (by decide) (by decide)).bind _).located "table").bind _
  have harguments : Rejects Stands (arguments rules) more :=
    ((hsymbol '(' (by decide) (by decide)).bind _).orElse <|
      (((hstring.locatedToken _).bind _).bind _).orElse (hbrace.bind _)
  have hfield : Rejects Stands fieldSuffix more := ((hpoint.bind _).located _).bind _
  have hindex : Rejects Stands (indexSuffix rules) more :=
    (((hsymbol '[' (by decide) (by decide)).bind _).located _).bind _
  have hcall : Rejects Stands (callSuffix rules) more := (harguments.located _).bind _
  have hmethod : Rejects Stands (methodSuffix rules) more :=
    (((hsymbol ':' (by decide) (by decide)).bind _).located _).bind _
  exact (hfield.orElse (hindex.orElse (hcall.orElse hmethod))).spaced

/-! ### From one level to the next looser one -/

theorem reads_leftward {level : Nat} (hlevel : level ∈ leftward) (hmore : Stops level more)
    (h : Reads Stands
      (Chain (reader rules (level + 1)) (tail rules level) fun left tail => tail left)
      ts more post) :
    Reads Stands (Gives (reader rules level)) ts more post := by
  rw [reader_leftward hlevel]
  exact h.chain_end (rejects_tail (List.mem_append_left _ hlevel) hmore)

theorem reads_suffixed (hmore : Stops 9 more)
    (h : Reads Stands (Chain (primary rules) (spaced (suffix rules)) Suffix.apply) ts more post) :
    Reads Stands (Gives (suffixed rules)) ts more post :=
  h.chain_end (rejects_suffix hmore)

/-- The operator of a level that binds to the right is missing. -/
theorem reads_rightwards {level : Nat} (hlevel : level ∈ rightwards) (hmore : Stops level more)
    (h : Reads Stands (Gives (reader rules (level + 1))) ts more post) :
    Reads Stands (Gives (reader rules level)) ts more post := by
  have hstop : Rejects Behind (tail rules level) more :=
    rejects_tail (List.mem_append_right _ hlevel) hmore
  rw [reader_rightwards hlevel]
  refine Reads.last h fun e he => ?_
  have hnone : Reads Behind (Gives (tail rules level <|> pure id)) [] more fun f => f = id :=
    hstop.reads_orElse (reads_pure rfl)
  exact Reads.last hnone fun f hf => reads_pure (by rw [hf]; exact he)

/-- The operator of a level that binds to the right follows. -/
theorem reads_rightwards_tail {level : Nat} {posts : (Expr → Expr) → Prop} {post' : Expr → Prop}
    (hlevel : level ∈ rightwards)
    (hleft : Reads Stands (Gives (reader rules (level + 1))) ts (us ++ more) post)
    (htail : Reads Behind (Gives (tail rules level)) us more posts)
    (hjoin : ∀ e f, post e → posts f → post' (f e)) :
    Reads Stands (Gives (reader rules level)) (ts ++ us) more post' := by
  rw [reader_rightwards hlevel]
  exact Reads.bind hleft fun e he =>
    Reads.last (htail.orElse _) fun f hf => reads_pure (hjoin e f he hf)

/-- No unary operator stands in front. -/
theorem reads_power {t : Lexeme} (h : Token.Denies Token.unaryOp t)
    (hpower : Reads Stands (Gives (power rules)) (t :: ts) more post) :
    Reads Stands (Gives (unary rules)) (t :: ts) more post := by
  have hunary : Rejects Stands (unaryExpr rules) (t :: (ts ++ more)) :=
    (((rejects_token h).bind _).located _).bind _
  exact hunary.reads_orElse hpower

/-! ### Operators -/

/-- With an operand on the left this makes the given expression. -/
def TailRecovers (f : Expr → Expr) (left e : Expr) : Prop :=
  ∀ found : Expr, found.Recovers left → (f found).Recovers e

theorem reads_binaryTail {tag : String} {length : List Char → Nat} {operand : Reader Expr}
    {op : BinaryOp} {left right : Expr} (hop : op ∈ BinaryOp.known)
    (haccepts : Token.Accepts length (.mark op.spelling))
    (hright : Reads Stands (Gives operand) ts more (·.Recovers right)) (loc : Option Location) :
    Reads Behind (Gives (binaryTail tag length operand)) (.mark op.spelling :: ts) more
      (TailRecovers · left (.binary op left right loc)) := by
  have hspelling : ∀ op ∈ BinaryOp.known, BinaryOp.ofSpelling op.spelling = op := by decide
  have hoperator : Reads Behind (Gives (spaced (locatedToken tag length))) [.mark op.spelling]
      (ts ++ more) fun found => (Lexeme.mark op.spelling).Spells found.1.toList :=
    ((reads_locatedToken haccepts tag).mono fun _ hfound => hfound.1).spaced
  refine hoperator.bind ?_
  rintro ⟨text, place⟩ htext
  obtain rfl := String.toList_injective htext.of_mark
  refine Reads.last hright.spaced fun found hfound => reads_pure fun operand hoperand => ⟨?_, ?_⟩
  · rw [Expr.unlocated, Expr.unlocated, hoperand.unlocated, hfound.unlocated, hspelling op hop]
  · rw [Expr.overlongInteger?, hoperand.overlong, hfound.overlong]
    rfl

theorem reads_logicalTail {tag : String} {length : List Char → Nat} {operand : Reader Expr}
    {op : LogicalOp} {left right : Expr} (hop : op = .or ∨ op = .and)
    (haccepts : Token.Accepts length (.mark op.spelling))
    (hright : Reads Stands (Gives operand) ts more (·.Recovers right)) (loc : Option Location) :
    Reads Behind (Gives (logicalTail tag length operand)) (.mark op.spelling :: ts) more
      (TailRecovers · left (.logical op left right loc)) := by
  have hspelling : LogicalOp.ofSpelling op.spelling = op := by rcases hop with rfl | rfl <;> decide
  have hoperator : Reads Behind (Gives (spaced (locatedToken tag length))) [.mark op.spelling]
      (ts ++ more) fun found => (Lexeme.mark op.spelling).Spells found.1.toList :=
    ((reads_locatedToken haccepts tag).mono fun _ hfound => hfound.1).spaced
  refine hoperator.bind ?_
  rintro ⟨text, place⟩ htext
  obtain rfl := String.toList_injective htext.of_mark
  refine Reads.last hright.spaced fun found hfound => reads_pure fun operand hoperand => ⟨?_, ?_⟩
  · rw [Expr.unlocated, Expr.unlocated, hoperand.unlocated, hfound.unlocated, hspelling]
  · rw [Expr.overlongInteger?, hoperand.overlong, hfound.overlong]
    rfl

theorem reads_unary {op : UnaryOp} {operand : Expr} (hop : op = .not ∨ op = .neg ∨ op = .length)
    (hoperand : Reads Stands (Gives rules.unary) ts more (·.Recovers operand))
    (loc : Option Location) :
    Reads Stands (Gives (unary rules)) (.mark op.spelling :: ts) more
      (·.Recovers (.unary op operand loc)) := by
  have hspelling : UnaryOp.ofSpelling op.spelling = op := by
    rcases hop with rfl | rfl | rfl <;> decide
  have haccepts : Token.Accepts Token.unaryOp (.mark op.spelling) :=
    Token.local_unaryOp.accepts (by rcases hop with rfl | rfl | rfl <;> decide)
  have hoperator : Reads Stands (Gives (token Token.unaryOp)) [.mark op.spelling] (ts ++ more)
      (Lexeme.mark op.spelling).Spells :=
    reads_token haccepts
  have hbehind : ∀ spelling, (Lexeme.mark op.spelling).Spells spelling → Reads Behind (Gives do
      let operand ← spaced rules.unary
      return (spelling, operand)) ts more
        fun found => found.1 = op.spelling.toList ∧ found.2.Recovers operand :=
    fun _ hspells => hoperand.spaced.last fun _ hfound => reads_pure ⟨hspells.of_mark, hfound⟩
  have hread : Reads Stands (Gives (unaryExpr rules)) (.mark op.spelling :: ts) more
      (·.Recovers (.unary op operand loc)) := by
    refine Reads.last ((hoperator.bind hbehind).located "unary_op_expr") ?_
    rintro ⟨⟨spelling, found⟩, place⟩ ⟨rfl, hfound⟩
    refine reads_pure ⟨?_, hfound.overlong⟩
    rw [String.ofList_toList, hspelling]
    exact congrArg (Expr.unary op · none) hfound.unlocated
  exact hread.orElse _

end Grammar

end TemplateScript
