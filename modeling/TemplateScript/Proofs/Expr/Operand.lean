import TemplateScript.Proofs.Expr.Level

/-!
# Operands

An expression is read at its own level, and from there at all looser levels, since no unary operator
stands in front of one that binds more tightly. What an operand and an operator behind it make is
read if the operand is, for every depth to which the rules are tied and which is enough for the
number of lexemes.
-/

namespace TemplateScript

/-! ### How an expression begins -/

theorem Leads.append {ts us : List Lexeme} (h : Leads ts) (hus : ∀ more, Stops 10 (us ++ more)) :
    Leads (ts ++ us) := by
  obtain ⟨t, rest, rfl, hbracket, hname⟩ := h
  refine ⟨t, rest ++ us, rfl, hbracket, hname.imp_right ?_⟩
  rintro ⟨spelling, rfl, hfollows⟩
  refine ⟨spelling, rfl, fun more _ => ?_⟩
  rw [List.append_assoc]
  exact hfollows _ (hus more)

/-- The first lexeme is no unary operator. -/
def LeadsTightly (ts : List Lexeme) : Prop :=
  ∃ t rest, ts = t :: rest ∧ Token.Denies Token.unaryOp t

theorem LeadsTightly.append {ts : List Lexeme} (h : LeadsTightly ts) (us : List Lexeme) :
    LeadsTightly (ts ++ us) := by
  obtain ⟨t, rest, rfl, ht⟩ := h
  exact ⟨t, rest ++ us, rfl, ht⟩

theorem leads_of_mark {spelling : String} (hbracket : Token.symbol '[' spelling.toList = 0)
    (hname : Token.name spelling.toList = 0) (rest : List Lexeme) :
    Leads (.mark spelling :: rest) :=
  ⟨_, rest, rfl, (Token.local_symbol (by decide)).denies hbracket,
    .inl (Token.local_name.denies hname)⟩

theorem leadsTightly_of_mark {spelling : String} (h : Token.unaryOp spelling.toList = 0)
    (rest : List Lexeme) : LeadsTightly (.mark spelling :: rest) :=
  ⟨_, rest, rfl, Token.local_unaryOp.denies h⟩

theorem leads_of_denies_name {t : Lexeme} (h : t.isMark = false)
    (hname : Token.Denies Token.name t) : Leads [t] :=
  ⟨t, [], rfl, Token.denies_symbol h (by decide), .inl hname⟩

theorem leads_of_name (spelling : String) : Leads [.name spelling] :=
  ⟨_, [], rfl, Token.denies_symbol rfl (by decide), .inr ⟨spelling, rfl, fun _ => id⟩⟩

theorem leadsTightly_of_not_isMark {t : Lexeme} (h : t.isMark = false) : LeadsTightly [t] :=
  ⟨t, [], rfl, Token.denies_unaryOp h⟩

theorem stops_follower {spelling : String} {k : Nat} (h : (spelling, k) ∈ followers)
    (ts more : List Lexeme) : Stops 10 (.mark spelling :: ts ++ more) := by
  have hall : ∀ p ∈ followers, p.2 < 10 := by decide
  exact stops_mark h (hall _ h) (ts ++ more)

theorem BinaryOp.follows {op : BinaryOp} (h : op ∈ BinaryOp.known) :
    (op.spelling, op.level) ∈ followers := by
  have hall : ∀ op ∈ BinaryOp.known, (op.spelling, op.level) ∈ followers := by decide
  exact hall op h

theorem LogicalOp.follows {op : LogicalOp} (h : op = .or ∨ op = .and) :
    (op.spelling, op.level) ∈ followers := by
  rcases h with rfl | rfl <;> decide

section

variable {separator : String}

theorem Expr.Grouped.leads {e : Expr} (h : e.Grouped) : Leads (e.lexemes separator) := by
  induction h with
  | nil => exact leads_of_mark (by decide) (by decide) []
  | bool b => cases b <;> exact leads_of_mark (by decide) (by decide) []
  | @int n =>
      have hname : Token.Denies Token.name (.numeral n) :=
        Token.absentAt_name.denies fun _ => not_isWordStart_of_isDigit
      exact leads_of_denies_name rfl hname
  | str s =>
      have hname : Token.Denies Token.name (.string s) :=
        Token.absentAt_name.denies fun _ => not_isWordStart_of_isQuote
      exact leads_of_denies_name rfl hname
  | name => exact leads_of_name _
  | index _ _ _ _ ih => exact ih.append (stops_follower (k := 9) (by decide) _)
  | call _ _ _ _ ih => exact ih.append (stops_follower (k := 9) (by decide) _)
  | methodCall _ _ _ _ _ ih => exact ih.append (stops_follower (k := 9) (by decide) _)
  | binary hop _ _ _ _ _ ih => exact ih.append (stops_follower (BinaryOp.follows hop) _)
  | logical hop _ _ _ _ _ ih => exact ih.append (stops_follower (LogicalOp.follows hop) _)
  | unary hop =>
      rcases hop with rfl | rfl | rfl <;> exact leads_of_mark (by decide) (by decide) _
  | paren => exact leads_of_mark (by decide) (by decide) _
  | table => exact leads_of_mark (by decide) (by decide) _

/-- No unary operator stands in front of an expression that binds more tightly than one. -/
theorem Expr.Grouped.leadsTightly {e : Expr} (h : e.Grouped) (hlevel : 8 ≤ e.level) :
    LeadsTightly (e.lexemes separator) := by
  induction h with
  | nil => exact leadsTightly_of_mark (by decide) []
  | bool b => cases b <;> exact leadsTightly_of_mark (by decide) []
  | int | str | name => exact leadsTightly_of_not_isMark rfl
  | index _ htight _ _ ih => exact (ih (Nat.le_of_succ_le htight)).append _
  | call _ htight _ _ ih => exact (ih (Nat.le_of_succ_le htight)).append _
  | methodCall _ htight _ _ _ ih => exact (ih (Nat.le_of_succ_le htight)).append _
  | @binary op _ _ hop _ _ hleftTight _ _ ih =>
      have hleft : ∀ op ∈ BinaryOp.known, 8 ≤ op.level → 8 ≤ op.leftLevel := by decide
      exact (ih (Nat.le_trans (hleft op hop hlevel) hleftTight)).append _
  | logical hop =>
      rw [Expr.level] at hlevel
      rcases hop with rfl | rfl <;> exact absurd hlevel (by decide)
  | unary => exact absurd hlevel (by decide : ¬ 8 ≤ 7)
  | paren => exact leadsTightly_of_mark (by decide) _
  | table => exact leadsTightly_of_mark (by decide) _

end

/-! ### From the level of an expression to all looser ones -/

namespace Grammar

open Reader

section

variable {rules : Rules} {separator : String} {e : Expr}

/-- What the rules read of an expression: all levels up to its own read it as a whole, and a chain
of one of these levels may go on behind it. -/
structure Parses (rules : Rules) (separator : String) (e : Expr) : Prop where
  reads : ∀ level, 1 ≤ level → level ≤ e.level → ∀ more, Stops level more →
    Reads Stands (Gives (reader rules level)) (e.lexemes separator) more (·.Recovers e)
  chains : ∀ level ∈ leftward, level ≤ e.level → ∀ more, Stops (level + 1) more →
    Reads Stands (Chain (reader rules (level + 1)) (tail rules level) fun left tail => tail left)
      (e.lexemes separator) more (·.Recovers e)
  suffixes : 9 ≤ e.level → ∀ more, Stops 10 more →
    Reads Stands (Chain (primary rules) (spaced (suffix rules)) Suffix.apply)
      (e.lexemes separator) more (·.Recovers e)

theorem reads_looser {ts : List Lexeme} {post : Expr → Prop} {level : Nat} (hpositive : 1 ≤ level)
    (hlevel : level < 9) (htight : 7 ≤ level → LeadsTightly ts)
    (h : ∀ more, Stops (level + 1) more →
      Reads Stands (Gives (reader rules (level + 1))) ts more post)
    {more : List Lexeme} (hmore : Stops level more) :
    Reads Stands (Gives (reader rules level)) ts more post := by
  have hkind : ∀ level < 9, 1 ≤ level →
      level ∈ leftward ∨ level ∈ rightwards ∨ level = 7 := by decide
  have htighter := h more (hmore.mono (Nat.le_succ level))
  rcases hkind level hlevel hpositive with hleft | hright | rfl
  · exact reads_leftward hleft hmore htighter.chain
  · exact reads_rightwards hright hmore htighter
  · obtain ⟨t, rest, rfl, ht⟩ := htight (Nat.le_refl 7)
    exact reads_power ht htighter

/-- It is enough to read an expression at its own level. -/
theorem parses_of_level (h : e.Grouped)
    (hown : ∀ more, Stops e.level more →
      Reads Stands (Gives (reader rules e.level)) (e.lexemes separator) more (·.Recovers e))
    (hchain : e.level ∈ leftward → ∀ more, Stops (e.level + 1) more →
      Reads Stands
        (Chain (reader rules (e.level + 1)) (tail rules e.level) fun left tail => tail left)
        (e.lexemes separator) more (·.Recovers e))
    (hsuffixes : 9 ≤ e.level → ∀ more, Stops 10 more →
      Reads Stands (Chain (primary rules) (spaced (suffix rules)) Suffix.apply)
        (e.lexemes separator) more (·.Recovers e)) :
    Parses rules separator e := by
  have hreads : ∀ level, 1 ≤ level → level ≤ e.level → ∀ more, Stops level more →
      Reads Stands (Gives (reader rules level)) (e.lexemes separator) more (·.Recovers e) := by
    intro level hpositive hlevel
    -- From the own level of the expression down to the one that is asked for.
    induction hlevel using Nat.decreasingInduction with
    | self => exact hown
    | of_succ level hlt ih =>
        have hbound := Nat.lt_of_lt_of_le hlt h.level_bounds.2
        intro more hmore
        exact reads_looser hpositive hbound (fun h7 => h.leadsTightly (by omega))
          (ih (Nat.le_succ_of_le hpositive)) hmore
  refine ⟨hreads, fun level hleft hlevel more hmore => ?_, hsuffixes⟩
  rcases Nat.eq_or_lt_of_le hlevel with rfl | hlt
  · exact hchain hleft more hmore
  · exact (hreads (level + 1) (Nat.le_add_left 1 level) hlt more hmore).chain

theorem parses_of_suffixes (h : e.Grouped) (hlevel : e.level = 9)
    (hsuffixes : ∀ more, Stops 10 more →
      Reads Stands (Chain (primary rules) (spaced (suffix rules)) Suffix.apply)
        (e.lexemes separator) more (·.Recovers e)) :
    Parses rules separator e := by
  refine parses_of_level h ?_ ?_ fun _ => hsuffixes
  · rw [hlevel]
    exact fun more hmore => reads_suffixed hmore (hsuffixes more (hmore.mono (by decide)))
  · intro hleft
    rw [hlevel] at hleft
    exact absurd hleft (by decide)

theorem parses_of_primary (h : e.Grouped) (hlevel : e.level = 9)
    (hprimary : ∀ more,
      Reads Stands (Gives (primary rules)) (e.lexemes separator) more (·.Recovers e)) :
    Parses rules separator e :=
  parses_of_suffixes h hlevel fun more _ => (hprimary more).chain

/-- A suffix behind an operand. -/
theorem parses_of_suffix {obj : Expr} {us : List Lexeme} (h : e.Grouped) (hlevel : e.level = 9)
    (hlexemes : e.lexemes separator = obj.lexemes separator ++ us)
    (hobj : Parses rules separator obj) (htight : 9 ≤ obj.level) (hus : us ≠ [])
    (hfollows : ∀ more, Stops 10 (us ++ more))
    (hsuffix : ∀ more, Reads Stands (Gives (suffix rules)) us more (SuffixRecovers · obj e)) :
    Parses rules separator e := by
  refine parses_of_suffixes h hlevel fun more hmore => ?_
  rw [hlexemes]
  exact (hobj.suffixes htight _ (hfollows more)).chain_snoc (hsuffix more).spaced hus
    fun found s hfound hs => hs found hfound

end

/-! ### Operators and their operands -/

/-- The operand is read by all rules that are tied deep enough. -/
def ParsesFrom (separator : String) (e : Expr) : Prop :=
  ∀ depth, (e.lexemes separator).length ≤ depth → Parses (rules depth) separator e

section

variable {depth : Nat} {separator : String} {e : Expr} {more : List Lexeme}

/-- Between brackets an expression is read one level deeper. -/
theorem ParsesFrom.expression (h : ParsesFrom separator e) (hgrouped : e.Grouped)
    (hdepth : (e.lexemes separator).length < depth) (more : List Lexeme) (hmore : Stops 1 more) :
    Reads Stands (Gives (rules depth).expression) (e.lexemes separator) more (·.Recovers e) := by
  cases depth with
  | zero => exact absurd hdepth (Nat.not_lt_zero _)
  | succ depth =>
      exact (h depth (Nat.le_of_lt_succ hdepth)).reads 1 (Nat.le_refl 1)
        hgrouped.level_bounds.1 more hmore

/-- At a closing bracket no expression begins. -/
theorem rejects_expression {spelling : String} (h : spelling ∈ [")", "\x7d"])
    (hdepth : 0 < depth) (more : List Lexeme) :
    Rejects Stands (rules depth).expression (.mark spelling :: more) := by
  obtain ⟨inner, rfl⟩ : ∃ inner, depth = inner + 1 := ⟨depth - 1, by omega⟩
  have hsign : ∀ spelling ∈ [")", "\x7d"], Token.unaryOp spelling.toList = 0 := by decide
  have hoperator : Rejects Stands (unaryExpr (rules inner)) (.mark spelling :: more) :=
    (((rejects_token (Token.local_unaryOp.denies (hsign spelling h))).bind _).located _).bind _
  have hpower : Rejects Stands (power (rules inner)) (.mark spelling :: more) :=
    ((rejects_primary h).bind _).bind _
  have hproduct : Rejects Stands (product (rules inner)) (.mark spelling :: more) :=
    (hoperator.orElse hpower).bind _
  have hconcatenation : Rejects Stands (concatenation (rules inner)) (.mark spelling :: more) :=
    (hproduct.bind _).bind _
  exact ((hconcatenation.bind _).bind _).bind _

theorem reads_binary {op : BinaryOp} {left right : Expr} (hop : op ∈ BinaryOp.known)
    (hright : ParsesFrom separator right) (htight : op.rightLevel ≤ right.level)
    (hdepth : (right.lexemes separator).length < depth) (hmore : Stops op.rightLevel more)
    (loc : Option Location) :
    Reads Behind (Gives (tail (rules depth) op.level))
      (.mark op.spelling :: right.lexemes separator) more
      (TailRecovers · left (.binary op left right loc)) := by
  obtain ⟨inner, rfl⟩ : ∃ inner, depth = inner + 1 := ⟨depth - 1, by omega⟩
  have hlevels : ∀ op ∈ BinaryOp.known, op.level = 4 ∧ op.rightLevel = 4 ∨
      op.level = 8 ∧ op.rightLevel = 7 ∨
      op.level ∈ [3, 5, 6] ∧ op.rightLevel = op.level + 1 := by decide
  have hspelling : ∀ op ∈ BinaryOp.known,
      operator op.level op.spelling.toList = op.spelling.toList.length := by decide
  have haccepts : Token.Accepts (operator op.level) (.mark op.spelling) :=
    (local_operator op.level).accepts (hspelling op hop)
  -- Concatenation and power take their right operand from the rules one level deeper.
  have hdeeper := hright inner (Nat.le_of_lt_succ hdepth)
  have hhere := hright (inner + 1) (Nat.le_of_lt hdepth)
  rcases hlevels op hop with ⟨hlevel, hside⟩ | ⟨hlevel, hside⟩ | ⟨hlevel, hside⟩
  · rw [hside] at htight hmore
    rw [hlevel] at haccepts ⊢
    exact reads_binaryTail hop haccepts (hdeeper.reads 4 (by decide) htight more hmore) loc
  · rw [hside] at htight hmore
    rw [hlevel] at haccepts ⊢
    exact reads_binaryTail hop haccepts (hdeeper.reads 7 (by decide) htight more hmore) loc
  · rw [hside] at htight hmore
    have hoperand := hhere.reads (op.level + 1) (Nat.le_add_left 1 _) htight more hmore
    simp only [List.mem_cons, List.not_mem_nil, or_false] at hlevel
    rcases hlevel with hlevel | hlevel | hlevel <;>
      (rw [hlevel] at haccepts hoperand ⊢; exact reads_binaryTail hop haccepts hoperand loc)

/-- What ends an operator that binds to the right ends its right operand. -/
theorem stops_rightOperand {op : BinaryOp} (hop : op ∈ BinaryOp.known)
    (hlevel : op.level ∈ rightwards) (h : Stops op.level more) : Stops op.rightLevel more := by
  have hlevels : ∀ op ∈ BinaryOp.known, op.level ∈ rightwards →
      op.rightLevel = op.level ∨ op.level = 8 ∧ op.rightLevel = 7 := by decide
  rcases hlevels op hop hlevel with hsame | ⟨height, hseven⟩
  · rwa [hsame]
  · rw [height] at h
    rw [hseven]
    exact h.unary

theorem reads_logical {op : LogicalOp} {left right : Expr} (hop : op = .or ∨ op = .and)
    (hright : ParsesFrom separator right) (htight : op.level < right.level)
    (hdepth : (right.lexemes separator).length ≤ depth) (hmore : Stops (op.level + 1) more)
    (loc : Option Location) :
    Reads Behind (Gives (tail (rules depth) op.level))
      (.mark op.spelling :: right.lexemes separator) more
      (TailRecovers · left (.logical op left right loc)) := by
  have haccepts : Token.Accepts (operator op.level) (.mark op.spelling) :=
    (local_operator op.level).accepts (by rcases hop with rfl | rfl <;> decide)
  have hoperand := (hright depth hdepth).reads (op.level + 1) (Nat.le_add_left 1 _) htight more
    hmore
  rcases hop with rfl | rfl
  · exact reads_logicalTail (.inl rfl) haccepts hoperand loc
  · exact reads_logicalTail (.inr rfl) haccepts hoperand loc

section

variable {rules : Rules} {left : Expr} {spelling : String} {ts : List Lexeme} (h : e.Grouped)
  (hlexemes : e.lexemes separator = left.lexemes separator ++ .mark spelling :: ts)
  (hfollows : (spelling, e.level) ∈ followers) (hleft : Parses rules separator left)

include h hlexemes hfollows hleft

/-- A chain goes on with an operator of its level. -/
theorem parses_of_leftward (hlevel : e.level ∈ leftward) (htight : e.level ≤ left.level)
    (htail : ∀ more, Stops (e.level + 1) more →
      Reads Behind (Gives (tail rules e.level)) (.mark spelling :: ts) more
        (TailRecovers · left e)) :
    Parses rules separator e := by
  have hchain : ∀ more, Stops (e.level + 1) more → Reads Stands
      (Chain (reader rules (e.level + 1)) (tail rules e.level) fun left tail => tail left)
      (e.lexemes separator) more (·.Recovers e) := by
    intro more hmore
    have hoperator : Stops (e.level + 1) (.mark spelling :: (ts ++ more)) :=
      stops_mark hfollows (Nat.lt_succ_self _) _
    rw [hlexemes]
    exact (hleft.chains e.level hlevel htight _ hoperator).chain_snoc (htail more hmore)
      (List.cons_ne_nil _ _) fun found f hfound hf => hf found hfound
  refine parses_of_level h (fun more hmore => ?_) (fun _ => hchain) fun hnine => ?_
  · exact reads_leftward hlevel hmore (hchain more (hmore.mono (Nat.le_succ _)))
  · have hbelow : ∀ level ∈ leftward, ¬ 9 ≤ level := by decide
    exact absurd hnine (hbelow e.level hlevel)

/-- An operator that binds to the right takes the rest as its right operand. -/
theorem parses_of_rightwards (hlevel : e.level ∈ rightwards) (htight : e.level < left.level)
    (htail : ∀ more, Stops e.level more →
      Reads Behind (Gives (tail rules e.level)) (.mark spelling :: ts) more
        (TailRecovers · left e)) :
    Parses rules separator e := by
  refine parses_of_level h (fun more hmore => ?_) (fun hleftward => ?_) fun hnine => ?_
  · have hoperator : Stops (e.level + 1) (.mark spelling :: (ts ++ more)) :=
      stops_mark hfollows (Nat.lt_succ_self _) _
    have hoperand := hleft.reads (e.level + 1) (Nat.le_add_left 1 _) htight _ hoperator
    rw [hlexemes]
    exact reads_rightwards_tail hlevel hoperand (htail more hmore)
      fun found f hfound hf => hf found hfound
  · have hapart : ∀ level ∈ rightwards, level ∉ leftward := by decide
    exact absurd hleftward (hapart e.level hlevel)
  · have hbelow : ∀ level ∈ rightwards, ¬ 9 ≤ level := by decide
    exact absurd hnine (hbelow e.level hlevel)

end

end

end Grammar

end TemplateScript
