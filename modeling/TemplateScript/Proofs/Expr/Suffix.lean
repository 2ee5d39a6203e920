import TemplateScript.Proofs.Expr.Phrase

/-!
# Fields, arguments and suffixes

What stands between commas, and what that is for. A field without a key is told from one with a key
by its first lexemes: no expression begins with a bracket, and behind a name at its front comes
what may follow an operand, which is never a sign of assignment.
-/

namespace TemplateScript

/-- The lexemes begin like those of an expression. -/
def Leads (ts : List Lexeme) : Prop :=
  ∃ t rest, ts = t :: rest ∧ Token.Denies (Token.symbol '[') t ∧
    (Token.Denies Token.name t ∨
      ∃ spelling, t = .name spelling ∧ ∀ more, Stops 10 more → Stops 10 (rest ++ more))

namespace Grammar

open Reader

variable {rules : Rules} {more : List Lexeme}

/-! ### Lists -/

section

variable {α γ : Type} {item : Reader α} {between : Reader Unit} {separator : String}
  {lexemesOf : γ → List Lexeme} {post : α → γ → Prop} {xs : List γ}

/-- Between two items stands what ends the first one. -/
theorem stops_items (hends : (separator, 0) ∈ followers) (hmore : Stops 1 more)
    (xs : List γ) : Stops 1 ((xs.map lexemesOf).flatMap (.mark separator :: ·) ++ more) := by
  cases xs with
  | nil => exact hmore
  | cons x _ => exact stops_end hends _

variable
  (hbetween : ∀ more, Reads Stands (Gives between) [.mark separator] more fun _ => True)
  (hends : (separator, 0) ∈ followers) (hmore : Stops 1 more)

include hbetween hends hmore

/-- Items with a separator in front of each. -/
theorem reads_items (hitems : ∀ x ∈ xs, ∀ more, Stops 1 more →
      Reads Stands (Gives item) (lexemesOf x) more (post · x)) :
    Reads Behind (Repeats do
      spaced between
      spaced item) ((xs.map lexemesOf).flatMap (.mark separator :: ·)) more
        fun found => List.Forall₂ post found xs := by
  induction xs with
  | nil =>
      refine reads_repeats_nil.mono ?_
      rintro _ rfl
      exact .nil
  | cons x rest ih =>
      have hrest := ih fun y hy => hitems y (List.mem_cons_of_mem x hy)
      have hfirst : Reads Behind (Gives do
          spaced between
          spaced item) ([.mark separator] ++ lexemesOf x)
            ((rest.map lexemesOf).flatMap (.mark separator :: ·) ++ more) (post · x) :=
        Reads.bind (hbetween _).spaced fun _ _ =>
          (hitems x List.mem_cons_self _ (stops_items hends hmore rest)).spaced
      refine (hfirst.repeats_cons (List.cons_ne_nil _ _) hrest).mono ?_
      rintro _ ⟨a, found, rfl, ha, hfound⟩
      exact .cons ha hfound

/-- Items with separators between them, and what becomes of them all. -/
theorem reads_separated {β : Type} {next : α → List α → Reader β} {post' : β → Prop} {x : γ}
    (hitems : ∀ y ∈ x :: xs, ∀ more, Stops 1 more →
      Reads Stands (Gives item) (lexemesOf y) more (post · y))
    (hstop : Rejects Stands between more)
    (hnext : ∀ first rest, List.Forall₂ post (first :: rest) (x :: xs) →
      Reads Behind (Gives (next first rest)) [] more post') :
    Reads Stands (Gives do
      let first ← item
      let rest ← many do
        spaced between
        spaced item
      next first rest) (separated separator ((x :: xs).map lexemesOf)) more post' := by
  have hrest := reads_items hbetween hends hmore fun y hy => hitems y (List.mem_cons_of_mem x hy)
  refine Reads.bind (hitems x List.mem_cons_self _ (stops_items hends hmore xs))
    fun first hfirst => ?_
  refine Reads.last (hrest.many (hstop.spaced.bind _)) fun found hfound => ?_
  exact hnext first found (.cons hfirst hfound)

end

/-! ### Tables -/

section

variable {separator : String}

theorem reads_fieldSeparator (hseparator : separator = "," ∨ separator = ";") :
    Reads Stands (Gives fieldSeparator) [.mark separator] more fun _ => True := by
  have haccepts : Token.Accepts (Token.oneOf [",", ";"]) (.mark separator) :=
    (Token.local_oneOf (by decide)).accepts (by rcases hseparator with rfl | rfl <;> decide)
  exact Reads.last (reads_token haccepts) fun _ _ => reads_pure trivial

theorem rejects_fieldSeparator : Rejects Stands fieldSeparator (.mark "\x7d" :: more) :=
  (rejects_token ((Token.local_oneOf (by decide)).denies (by decide))).bind fun _ => pure ()

theorem reads_keyedField {key value : Expr} {ts us : List Lexeme} (hmore : Stops 1 more)
    (hkey : ∀ more, Stops 1 more → Reads Stands (Gives rules.expression) ts more (·.Recovers key))
    (hvalue : ∀ more, Stops 1 more →
      Reads Stands (Gives rules.expression) us more (·.Recovers value)) :
    Reads Stands (Gives (field rules)) (bracketed "[" "]" ts ++ .mark "=" :: us) more
      (FieldRecovers · (some key, value)) := by
  have hclosed : Reads Stands (Gives (enclosed rules '[' ']')) (bracketed "[" "]" ts)
      ([.mark "="] ++ us ++ more) (·.Recovers key) :=
    reads_enclosed ⟨by decide, rfl⟩ ⟨by decide, rfl⟩ (by decide) hkey
  have hassigned : ∀ found : Expr, found.Recovers key → Reads Behind (Gives do
      spaced assignmentSign
      let value ← spaced rules.expression
      return (some found, value)) ([.mark "="] ++ us) more (FieldRecovers · (some key, value)) :=
    fun found hfound => Reads.bind reads_assignmentSign.spaced fun _ _ =>
      Reads.last (hvalue more hmore).spaced fun _ hread => reads_pure (.keyed hfound hread)
  exact (Reads.bind hclosed hassigned).orElse _

theorem reads_positionalField {value : Expr} {ts : List Lexeme} (hleads : Leads ts)
    (hmore : Stops 1 more)
    (hvalue : Reads Stands (Gives rules.expression) ts more (·.Recovers value)) :
    Reads Stands (Gives (field rules)) ts more (FieldRecovers · (none, value)) := by
  obtain ⟨t, rest, rfl, hbracket, hname⟩ := hleads
  have hkeyed : Rejects Stands (keyedField rules) (t :: (rest ++ more)) :=
    ((rejects_symbol hbracket).bind _).bind _
  have hnamed : Rejects Stands (namedField rules) (t :: (rest ++ more)) := by
    rcases hname with hdenies | ⟨spelling, rfl, hfollows⟩
    · exact (rejects_locatedToken hdenies).bind _
    · have hkey : Reads Stands (Gives nameKey) [.name spelling] (rest ++ more) fun _ => True :=
        Reads.last (reads_name spelling) fun _ _ => reads_pure trivial
      have hstop := hfollows more (hmore.mono (by decide))
      exact hkey.rejects_bind fun _ _ => (rejects_assignmentSign hstop).spaced.bind _
  have hread : Reads Stands (Gives (positionalField rules)) (t :: rest) more
      (FieldRecovers · (none, value)) :=
    Reads.last hvalue fun _ hfound => reads_pure (.positional hfound)
  exact hkeyed.reads_orElse (hnamed.reads_orElse hread)

/-- Where a table ends no field begins. -/
theorem rejects_field
    (hclose : ∀ more, Rejects Stands rules.expression (.mark "\x7d" :: more)) :
    Rejects Stands (field rules) (.mark "\x7d" :: more) := by
  have hkeyed : Rejects Stands (keyedField rules) (.mark "\x7d" :: more) :=
    ((rejects_symbol (denies_symbol (by decide) rfl)).bind _).bind _
  have hnamed : Rejects Stands (namedField rules) (.mark "\x7d" :: more) :=
    (rejects_locatedToken (Token.local_name.denies rfl)).bind _
  exact hkeyed.orElse (hnamed.orElse ((hclose more).bind _))

theorem reads_table {fields : List (Option Expr × Expr)} (loc : Option Location)
    (hseparator : separator = "," ∨ separator = ";")
    (hclose : ∀ more, Rejects Stands rules.expression (.mark "\x7d" :: more))
    (hfields : ∀ f ∈ fields, ∀ more, Stops 1 more →
      Reads Stands (Gives (field rules)) (lexemesOfField separator f) more (FieldRecovers · f)) :
    Reads Stands (Gives (primary rules))
      (bracketed "\x7b" "\x7d" (separated separator (lexemesOfFields separator fields))) more
      (·.Recovers (.tableConstructor fields loc)) := by
  have hends : (separator, 0) ∈ followers := by rcases hseparator with rfl | rfl <;> decide
  have hlist : Reads Behind (Gives (spaced (fieldList rules) <|> pure []))
      (separated separator (lexemesOfFields separator fields)) (.mark "\x7d" :: more)
      fun found => List.Forall₂ FieldRecovers found fields := by
    rw [lexemesOfFields_eq_map]
    cases fields with
    | nil =>
        have hnone : Rejects Stands (fieldList rules) (.mark "\x7d" :: more) :=
          (rejects_field hclose).bind _
        exact hnone.spaced.reads_orElse (reads_pure .nil)
    | cons f rest =>
        have hstops : Stops 1 (.mark "\x7d" :: more) := stops_end (by decide) more
        have hlast : Reads Behind (Gives (spaced fieldSeparator <|> pure ())) []
            (.mark "\x7d" :: more) fun _ => True :=
          rejects_fieldSeparator.spaced.reads_orElse (reads_pure trivial)
        have hread : Reads Stands (Gives (fieldList rules))
            (separated separator ((f :: rest).map (lexemesOfField separator)))
            (.mark "\x7d" :: more) fun found => List.Forall₂ FieldRecovers found (f :: rest) :=
          reads_separated (fun _ => reads_fieldSeparator hseparator) hends hstops hfields
            rejects_fieldSeparator fun _ _ hfound => hlast.last fun _ _ => reads_pure hfound
        exact hread.spaced.orElse _
  have hread : Reads Stands (Gives (tableConstructor rules))
      (bracketed "\x7b" "\x7d" (separated separator (lexemesOfFields separator fields))) more
      (·.Recovers (.tableConstructor fields loc)) := by
    have hclosing : ∀ found, List.Forall₂ FieldRecovers found fields → Reads Behind (Gives do
        spaced (symbol '\x7d')
        return found) [.mark "\x7d"] more fun found => List.Forall₂ FieldRecovers found fields :=
      fun found hfound =>
        Reads.last (reads_symbol (by decide) rfl).spaced fun _ _ => reads_pure hfound
    have hopening : Reads Stands (Gives (symbol '\x7b')) [.mark "\x7b"]
        (separated separator (lexemesOfFields separator fields) ++ [.mark "\x7d"] ++ more)
        fun _ => True :=
      reads_symbol (by decide) rfl
    have hall := hopening.bind fun _ _ => hlist.bind hclosing
    refine Reads.last (hall.located "table") ?_
    rintro ⟨found, place⟩ hfound
    obtain ⟨hsame, hshort⟩ := recovers_fields hfound
    exact reads_pure ⟨congrArg (Expr.tableConstructor · none) hsame, hshort⟩
  exact (deniesLiterals_bracket (by decide)).reads_primary (hread.orElse _)

end

/-! ### Suffixes -/

/-- The suffix makes this expression of the operand that it is applied to. -/
def SuffixRecovers (suffix : Suffix) (obj e : Expr) : Prop :=
  ∀ found : Expr, found.Recovers obj → (suffix.apply found).Recovers e

section

variable {separator : String}

theorem rejects_fieldSuffix {t : Lexeme} (h : Token.Denies (Token.single '.') t) :
    Rejects Stands fieldSuffix (t :: more) := by
  have hpoint : Rejects Stands (discard (token (Token.single '.'))) (t :: more) :=
    (rejects_token h).bind fun _ => pure ()
  exact ((hpoint.bind _).located "field_suffix").bind _

theorem rejects_indexSuffix {t : Lexeme} (h : Token.Denies (Token.symbol '[') t) :
    Rejects Stands (indexSuffix rules) (t :: more) :=
  (((rejects_symbol h).bind _).located "index_suffix").bind _

theorem rejects_callSuffix {t : Lexeme} (hparen : Token.Denies (Token.symbol '(') t)
    (hstring : Token.Denies Token.string t) (hbrace : Token.Denies (Token.symbol '\x7b') t) :
    Rejects Stands (callSuffix rules) (t :: more) := by
  have hopening : Rejects Stands (symbol '(') (t :: more) := rejects_symbol hparen
  have harguments : Rejects Stands (arguments rules) (t :: more) :=
    (hopening.bind _).orElse (((rejects_locatedToken hstring).bind _).orElse
      ((rejects_tableConstructor hbrace).bind _))
  exact (harguments.located "call_suffix").bind _

theorem denies_point {spelling : String} (h : Token.single '.' spelling.toList = 0) :
    Token.Denies (Token.single '.') (.mark spelling) :=
  (Token.local_single (by decide)).denies h

theorem reads_indexSuffix {obj key : Expr} {ts : List Lexeme} (loc : Option Location)
    (hkey : ∀ more, Stops 1 more →
      Reads Stands (Gives rules.expression) ts more (·.Recovers key)) :
    Reads Stands (Gives (suffix rules)) (bracketed "[" "]" ts) more
      (SuffixRecovers · obj (.index obj key loc)) := by
  have henclosed : Reads Stands (Gives (enclosed rules '[' ']')) (bracketed "[" "]" ts) more
      (·.Recovers key) :=
    reads_enclosed ⟨by decide, rfl⟩ ⟨by decide, rfl⟩ (by decide) hkey
  have hread : Reads Stands (Gives (indexSuffix rules)) (bracketed "[" "]" ts) more
      (SuffixRecovers · obj (.index obj key loc)) := by
    refine Reads.last (henclosed.located "index_suffix") ?_
    rintro ⟨found, place⟩ hfound
    refine reads_pure fun left hleft => ⟨?_, ?_⟩
    · exact congrArg₂ (Expr.index · · none) hleft.unlocated hfound.unlocated
    · rw [Suffix.apply, Expr.overlongInteger?, hleft.overlong, hfound.overlong]
      rfl
  exact (rejects_fieldSuffix (denies_point rfl)).reads_orElse (hread.orElse _)

variable {args : List Expr}
  (hclose : ∀ more, Rejects Stands rules.expression (.mark ")" :: more))
  (hargs : ∀ arg ∈ args, ∀ more, Stops 1 more →
    Reads Stands (Gives rules.expression) (arg.lexemes separator) more (·.Recovers arg))

include hclose hargs

theorem reads_arguments :
    Reads Stands (Gives (arguments rules))
      (bracketed "(" ")" (separated "," (lexemesOfAll separator args))) more
      fun found => List.Forall₂ Expr.Recovers found args := by
  have hlist : Reads Behind (Gives (spaced (argumentList rules) <|> pure []))
      (separated "," (lexemesOfAll separator args)) (.mark ")" :: more)
      fun found => List.Forall₂ Expr.Recovers found args := by
    rw [lexemesOfAll_eq_map]
    cases args with
    | nil =>
        have hnone : Rejects Stands (argumentList rules) (.mark ")" :: more) :=
          (hclose more).bind _
        exact hnone.spaced.reads_orElse (reads_pure .nil)
    | cons arg rest =>
        have hstops : Stops 1 (.mark ")" :: more) := stops_end (by decide) more
        have hcomma : Rejects Stands (symbol ',') (.mark ")" :: more) :=
          rejects_symbol (denies_symbol (by decide) rfl)
        have hread : Reads Stands (Gives (argumentList rules))
            (separated "," ((arg :: rest).map (Expr.lexemes separator))) (.mark ")" :: more)
            fun found => List.Forall₂ Expr.Recovers found (arg :: rest) :=
          reads_separated (fun _ => reads_symbol (by decide) rfl) (by decide) hstops hargs hcomma
            fun _ _ hfound => reads_pure hfound
        exact hread.spaced.orElse _
  have hclosing : ∀ found, List.Forall₂ Expr.Recovers found args → Reads Behind (Gives do
      spaced (symbol ')')
      return found) [.mark ")"] more fun found => List.Forall₂ Expr.Recovers found args :=
    fun found hfound =>
      Reads.last (reads_symbol (by decide) rfl).spaced fun _ _ => reads_pure hfound
  have hopening : Reads Stands (Gives (symbol '(')) [.mark "("]
      (separated "," (lexemesOfAll separator args) ++ [.mark ")"] ++ more) fun _ => True :=
    reads_symbol (by decide) rfl
  exact (hopening.bind fun _ _ => hlist.bind hclosing).orElse _

theorem reads_callSuffix {fn : Expr} (loc : Option Location) :
    Reads Stands (Gives (suffix rules))
      (bracketed "(" ")" (separated "," (lexemesOfAll separator args))) more
      (SuffixRecovers · fn (.call fn args loc)) := by
  have hread : Reads Stands (Gives (callSuffix rules))
      (bracketed "(" ")" (separated "," (lexemesOfAll separator args))) more
      (SuffixRecovers · fn (.call fn args loc)) := by
    refine Reads.last ((reads_arguments hclose hargs).located "call_suffix") ?_
    rintro ⟨found, place⟩ hfound
    obtain ⟨hsame, hshort⟩ := recovers_all hfound
    refine reads_pure fun left hleft => ⟨?_, ?_⟩
    · exact congrArg₂ (Expr.call · · none) hleft.unlocated hsame
    · rw [Suffix.apply, Expr.overlongInteger?, hleft.overlong, hshort]
      rfl
  exact (rejects_fieldSuffix (denies_point rfl)).reads_orElse <|
    (rejects_indexSuffix (denies_symbol (by decide) rfl)).reads_orElse (hread.orElse _)

theorem reads_methodSuffix {obj : Expr} {spelling : String} (loc : Option Location) :
    Reads Stands (Gives (suffix rules))
      (.mark ":" :: .name spelling ::
        bracketed "(" ")" (separated "," (lexemesOfAll separator args))) more
      (SuffixRecovers · obj (.methodCall obj spelling args loc)) := by
  have harguments : ∀ found : String × Location, found.1 = spelling ∧ found.2.tag = some "name" →
      Reads Behind (Gives do
        let args ← spaced (arguments rules)
        return (found.1, args)) (bracketed "(" ")" (separated "," (lexemesOfAll separator args)))
          more fun found => found.1 = spelling ∧ List.Forall₂ Expr.Recovers found.2 args :=
    fun found hname => Reads.last (reads_arguments hclose hargs).spaced fun _ hfound =>
      reads_pure ⟨hname.1, hfound⟩
  have hcolon : Reads Stands (Gives (symbol ':')) [.mark ":"]
      ([.name spelling] ++ bracketed "(" ")" (separated "," (lexemesOfAll separator args)) ++ more)
      fun _ => True :=
    reads_symbol (by decide) rfl
  have hread : Reads Stands (Gives (methodSuffix rules))
      (.mark ":" :: .name spelling ::
        bracketed "(" ")" (separated "," (lexemesOfAll separator args))) more
      (SuffixRecovers · obj (.methodCall obj spelling args loc)) := by
    have hall := hcolon.bind fun _ _ => (reads_name spelling).spaced.bind harguments
    refine Reads.last (hall.located "method_suffix") ?_
    rintro ⟨⟨called, found⟩, place⟩ ⟨rfl, hfound⟩
    obtain ⟨hsame, hshort⟩ := recovers_all hfound
    refine reads_pure fun left hleft => ⟨?_, ?_⟩
    · exact congrArg₂ (Expr.methodCall · called · none) hleft.unlocated hsame
    · rw [Suffix.apply, Expr.overlongInteger?, hleft.overlong, hshort]
      rfl
  have hcall : Rejects Stands (callSuffix rules) (.mark ":" :: .name spelling ::
      bracketed "(" ")" (separated "," (lexemesOfAll separator args)) ++ more) :=
    rejects_callSuffix (denies_symbol (by decide) rfl)
      (Token.denies_string_mark (by decide)) (denies_symbol (by decide) rfl)
  exact (rejects_fieldSuffix (denies_point rfl)).reads_orElse <|
    (rejects_indexSuffix (denies_symbol (by decide) rfl)).reads_orElse (hcall.reads_orElse hread)

end

end Grammar

end TemplateScript
