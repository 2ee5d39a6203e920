import TemplateScript.Proofs.Expr.Level

/-!
# Texts without gaps

What a reader takes where one text stands and another follows it, with or without blanks between
them. A sign that closes something, or a comma, ends what stands in front of it: no other token, no
operator and no suffix takes it. So in front of one each level of the grammar reads what the
tightest one reads.
-/

namespace TemplateScript

open Token

/-! ### Signs that close -/

/-- A sign behind which no expression goes on. -/
def IsCloser (c : Char) : Prop := c ∈ [',', ')', ']', '\x7d']

instance : DecidablePred IsCloser :=
  fun c => inferInstanceAs (Decidable (c ∈ [',', ')', ']', '\x7d']))

namespace IsCloser

variable {c : Char}

theorem cases (h : IsCloser c) : c = ',' ∨ c = ')' ∨ c = ']' ∨ c = '\x7d' := by
  simpa only [IsCloser, List.mem_cons, List.not_mem_nil, or_false] using h

theorem not_isBlank (h : IsCloser c) : isBlank c = false := by
  rcases h.cases with rfl | rfl | rfl | rfl <;> decide

theorem not_isWordPart (h : IsCloser c) : isWordPart c = false := by
  rcases h.cases with rfl | rfl | rfl | rfl <;> decide

theorem endsNumber (h : IsCloser c) : EndsNumber c := by
  rcases h.cases with rfl | rfl | rfl | rfl <;> exact ⟨by decide, by decide, by decide⟩

theorem endsUnaryOp (h : IsCloser c) : EndsUnaryOp c := by
  rcases h.cases with rfl | rfl | rfl | rfl <;> exact ⟨by decide, by decide, by decide⟩

theorem not_isQuote (h : IsCloser c) : isQuote c = false := by
  rcases h.cases with rfl | rfl | rfl | rfl <;> decide

end IsCloser

namespace Reader

variable {α β : Type} {reader : Reader α} {next : α → Reader β} {text text' after : List Char}
  {post : α → Prop} {post' : β → Prop}

/-! ### Readers in front of texts -/

/-- In front of the two texts the reader takes the first of them. -/
def TakesText (reader : Reader α) (text after : List Char) (post : α → Prop) : Prop :=
  ∀ cursor : Cursor, cursor.rest = text ++ after →
    ∃ a later, Gives reader cursor a later ∧ later.rest = after ∧ post a

def RefusesText (reader : Reader α) (text : List Char) : Prop :=
  ∀ cursor : Cursor, cursor.rest = text → Refuses reader cursor

theorem takesText_pure {a : α} (h : post a) : TakesText (pure a) [] after post :=
  fun cursor hcursor => ⟨a, cursor, gives_pure a cursor, hcursor, h⟩

theorem TakesText.bind (h : TakesText reader text (text' ++ after) post)
    (hnext : ∀ a, post a → TakesText (next a) text' after post') :
    TakesText (reader >>= next) (text ++ text') after post' := by
  intro cursor hcursor
  rw [List.append_assoc] at hcursor
  obtain ⟨a, middle, hrun, hmiddle, hpost⟩ := h cursor hcursor
  obtain ⟨b, later, hrun', hlater, hpost'⟩ := hnext a hpost middle hmiddle
  exact ⟨b, later, hrun.bind hrun', hlater, hpost'⟩

/-- What follows a reader takes nothing. -/
theorem TakesText.last (h : TakesText reader text after post)
    (hnext : ∀ a, post a → TakesText (next a) [] after post') :
    TakesText (reader >>= next) text after post' := by
  have hbind : TakesText (reader >>= next) (text ++ []) after post' := TakesText.bind h hnext
  rwa [List.append_nil] at hbind

theorem TakesText.orElse (h : TakesText reader text after post) (second : Reader α) :
    TakesText (reader <|> second) text after post := by
  intro cursor hcursor
  obtain ⟨a, later, hrun, hrest⟩ := h cursor hcursor
  exact ⟨a, later, hrun.orElse second, hrest⟩

theorem RefusesText.takesText_orElse {second : Reader α} (h : RefusesText reader (text ++ after))
    (hsecond : TakesText second text after post) :
    TakesText (reader <|> second) text after post := by
  intro cursor hcursor
  obtain ⟨a, later, hrun, hrest⟩ := hsecond cursor hcursor
  exact ⟨a, later, (h cursor hcursor).gives_orElse hrun, hrest⟩

theorem RefusesText.bind (h : RefusesText reader text) (next : α → Reader β) :
    RefusesText (reader >>= next) text :=
  fun cursor hcursor => (h cursor hcursor).bind next

theorem RefusesText.orElse {second : Reader α} (h : RefusesText reader text)
    (hsecond : RefusesText second text) : RefusesText (reader <|> second) text :=
  fun cursor hcursor => (h cursor hcursor).orElse (hsecond cursor hcursor)

theorem TakesText.located (h : TakesText reader text after post) (tag : String) :
    TakesText (located tag reader) text after fun found => post found.1 := by
  intro cursor hcursor
  obtain ⟨a, later, hrun, hlater, hpost⟩ := h cursor hcursor
  refine ⟨(a, cursor.locationUpTo later tag), later, ?_, hlater, hpost⟩
  exact (gives_get cursor).bind (hrun.bind ((gives_get later).bind (gives_pure _ _)))

theorem RefusesText.located (h : RefusesText reader text) (tag : String) :
    RefusesText (located tag reader) text :=
  fun cursor hcursor => (gives_get cursor).refuses_bind ((h cursor hcursor).bind _)

/-- Blanks in front of a text that begins with none. -/
theorem gives_blanks_of_text {gap rest : List Char} (hgap : Gap gap)
    (hrest : StartsIn (isBlank · = false) rest) {cursor : Cursor}
    (hcursor : cursor.rest = gap ++ rest) :
    ∃ later, Gives blanks cursor () later ∧ later.rest = rest := by
  have hstop : rest.takeWhile isBlank = [] := takeWhile_append_of_startsIn hrest []
  have hblanks : cursor.rest.takeWhile isBlank = gap := by
    rw [hcursor, List.takeWhile_append_of_pos hgap, hstop, List.append_nil]
  refine ⟨cursor.skip gap.length, fun reach => ⟨reach, ?_⟩, ?_⟩
  · rw [blanks_run, hblanks]
  · rw [Cursor.skip, hcursor, List.drop_left]

theorem TakesText.spaced (h : TakesText reader text after post) {gap : List Char} (hgap : Gap gap)
    (hstart : StartsIn (isBlank · = false) (text ++ after)) :
    TakesText (spaced reader) (gap ++ text) after post := by
  intro cursor hcursor
  rw [List.append_assoc] at hcursor
  obtain ⟨middle, hblanks, hmiddle⟩ := gives_blanks_of_text hgap hstart hcursor
  obtain ⟨a, later, hrun, hrest⟩ := h middle hmiddle
  exact ⟨a, later, hblanks.bind hrun, hrest⟩

theorem RefusesText.spaced (h : RefusesText reader text)
    (hstart : StartsIn (isBlank · = false) text) : RefusesText (spaced reader) text := by
  intro cursor hcursor
  have hfront : cursor.rest = [] ++ text := hcursor
  obtain ⟨middle, hblanks, hmiddle⟩ :=
    gives_blanks_of_text (List.forall_mem_nil _) hstart hfront
  exact hblanks.refuses_bind (h middle hmiddle)

/-! ### Tokens -/

section

variable {length : List Char → Nat}

theorem takesText_token (hlength : length (text ++ after) = text.length) (hne : text ≠ []) :
    TakesText (token length) text after (· = text) := by
  intro cursor hcursor
  refine ⟨text, cursor.skip text.length, gives_token hcursor ?_ hne, ?_, rfl⟩
  · rw [hcursor, hlength]
  · rw [Cursor.skip, hcursor, List.drop_left]

theorem takesText_locatedToken (hlength : length (text ++ after) = text.length) (hne : text ≠ [])
    (tag : String) : TakesText (locatedToken tag length) text after fun found =>
      found.1 = String.ofList text ∧ found.2.tag = some tag ∧ found.2.text = some found.1 := by
  intro cursor hcursor
  have hhere : length cursor.rest = text.length := by rw [hcursor, hlength]
  obtain ⟨loc, hgives, htag, hshown⟩ := gives_locatedToken hcursor hhere hne tag
  refine ⟨(String.ofList text, loc), _, hgives, ?_, rfl, htag, hshown⟩
  rw [Cursor.skip, hcursor, List.drop_left]

theorem refusesText_token (hlength : length text = 0) : RefusesText (token length) text :=
  fun _ hcursor => refuses_token (by rw [hcursor, hlength])

theorem refusesText_locatedToken (hlength : length text = 0) (tag : String) :
    RefusesText (locatedToken tag length) text :=
  ((refusesText_token hlength).located tag).bind _

end

/-! ### The same reader again and again -/

/-- In front of the two texts the reader takes the first of them, part by part. -/
def TakesParts (reader : Reader α) (text after : List Char) (post : List α → Prop) : Prop :=
  ∀ cursor : Cursor, cursor.rest = text ++ after →
    ∃ results later, Repeats reader cursor results later ∧ later.rest = after ∧ post results

variable {posts posts' : List α → Prop}

theorem takesParts_nil (h : posts []) : TakesParts reader [] after posts :=
  fun cursor hcursor => ⟨[], cursor, .nil cursor, hcursor, h⟩

theorem TakesText.parts_cons (h : TakesText reader text (text' ++ after) post) (hne : text ≠ [])
    (hrest : TakesParts reader text' after posts)
    (hjoin : ∀ a rest, post a → posts rest → posts' (a :: rest)) :
    TakesParts reader (text ++ text') after posts' := by
  intro cursor hcursor
  rw [List.append_assoc] at hcursor
  obtain ⟨a, middle, hrun, hmiddle, hpost⟩ := h cursor hcursor
  obtain ⟨rest, later, hrun', hlater, hpost'⟩ := hrest middle hmiddle
  have hshorter : middle.rest.length < cursor.rest.length := by
    have := List.length_pos_iff.mpr hne
    simp only [hmiddle, hcursor, List.length_append]
    omega
  exact ⟨a :: rest, later, .cons hrun hshorter hrun', hlater, hjoin a rest hpost hpost'⟩

theorem TakesParts.many (h : TakesParts reader text after posts)
    (hstop : RefusesText reader after) : TakesText (many reader) text after posts := by
  intro cursor hcursor
  obtain ⟨results, later, hrun, hlater, hpost⟩ := h cursor hcursor
  exact ⟨results, later, hrun.many (hstop later hlater), hlater, hpost⟩

theorem takesText_many_nil (h : RefusesText reader after) :
    TakesText (many reader) [] after fun results => results = [] := by
  have hnone : TakesParts reader [] after fun results => results = [] := takesParts_nil rfl
  exact hnone.many h

end Reader

/-! ### Levels of the grammar in front of a closing sign -/

namespace Grammar

open Reader

variable {rules : Rules} {text after : List Char} {post : Expr → Prop}

theorem blind_operator (level : Nat) : Blind (operator level) IsCloser := by
  have hsigns : ∀ spellings : List String,
      (spellings.all fun s => s.toList.all fun c => c ∉ [',', ')', ']', '\x7d']) →
        Blind (oneOf spellings) IsCloser := by
    intro spellings hall
    refine blind_oneOf fun s hs c hc => ?_
    have hother := List.all_eq_true.mp (List.all_eq_true.mp hall s hs) c hc
    exact (of_decide_eq_true hother : c ∉ [',', ')', ']', '\x7d'])
  unfold operator
  split
  · exact (blind_keyword "or").mono fun _ h => h.not_isWordPart
  · exact (blind_keyword "and").mono fun _ h => h.not_isWordPart
  all_goals exact hsigns _ (by decide)

theorem startsIn_not_isBlank (h : StartsIn IsCloser after) : StartsIn (isBlank · = false) after :=
  h.mono fun _ hc => hc.not_isBlank

theorem refusesText_of_blind {length : List Char → Nat} (hblind : Blind length IsCloser)
    (hnil : length [] = 0) (h : StartsIn IsCloser after) : RefusesText (token length) after :=
  refusesText_token ((hblind [] after h).trans hnil)

theorem refusesText_symbol {c : Char} (hc : ¬ IsCloser c) (h : StartsIn IsCloser after) :
    RefusesText (symbol c) after := by
  have hblind : Blind (Token.symbol c) IsCloser :=
    (blind_symbol c).mono fun _ hd heq => hc (heq ▸ hd)
  exact (refusesText_of_blind hblind rfl h).bind fun _ => pure ()

theorem refusesText_tail {level : Nat} (hlevel : level ∈ leftward ++ rightwards)
    (h : StartsIn IsCloser after) : RefusesText (tail rules level) after := by
  have hnil : ∀ level ∈ leftward ++ rightwards, operator level [] = 0 := by decide
  have hoperator (tag : String) : RefusesText (spaced (locatedToken tag (operator level))) after :=
    (((refusesText_of_blind (blind_operator level) (hnil level hlevel) h).located tag).bind
      _).spaced (startsIn_not_isBlank h)
  simp only [leftward, rightwards, List.cons_append, List.nil_append, List.mem_cons,
    List.not_mem_nil, or_false] at hlevel
  rcases hlevel with rfl | rfl | rfl | rfl | rfl | rfl | rfl <;> exact (hoperator _).bind _

theorem string_of_startsIn (h : StartsIn IsCloser after) : Token.string after = 0 := by
  cases after with
  | nil => rfl
  | cons c rest => exact absentAt_string c rest (h c rest rfl).not_isQuote

theorem refusesText_suffix (h : StartsIn IsCloser after) :
    RefusesText (spaced (suffix rules)) after := by
  have hpoint : RefusesText (discard (token (Token.single '.'))) after := by
    have hblind : Blind (Token.single '.') IsCloser := by
      refine (blind_single '.').mono fun d hd heq => ?_
      exact absurd (heq ▸ hd : '.' ∈ [',', ')', ']', '\x7d']) (by decide)
    exact (refusesText_of_blind hblind rfl h).bind fun _ => pure ()
  have hopening (c : Char) (hc : ¬ IsCloser c) : RefusesText (symbol c) after :=
    refusesText_symbol hc h
  have hstring : RefusesText stringLiteral after :=
    (refusesText_locatedToken (string_of_startsIn h) "string").bind _
  have hbrace : RefusesText (tableConstructor rules) after :=
    (((hopening '\x7b' (by decide)).bind _).located "table").bind _
  have harguments : RefusesText (arguments rules) after :=
    ((hopening '(' (by decide)).bind _).orElse ((hstring.bind _).orElse (hbrace.bind _))
  have hfield : RefusesText fieldSuffix after := ((hpoint.bind _).located _).bind _
  have hindex : RefusesText (indexSuffix rules) after :=
    (((hopening '[' (by decide)).bind _).located _).bind _
  have hcall : RefusesText (callSuffix rules) after := (harguments.located _).bind _
  have hmethod : RefusesText (methodSuffix rules) after :=
    (((hopening ':' (by decide)).bind _).located _).bind _
  exact (hfield.orElse (hindex.orElse (hcall.orElse hmethod))).spaced (startsIn_not_isBlank h)

/-- No operator of a level follows. -/
theorem takesText_looser {level : Nat} (hlevel : level ∈ leftward ++ rightwards)
    (hafter : StartsIn IsCloser after)
    (h : TakesText (reader rules (level + 1)) text after post) :
    TakesText (reader rules level) text after post := by
  have hstop : RefusesText (tail rules level) after := refusesText_tail hlevel hafter
  rcases List.mem_append.mp hlevel with hleft | hright
  · rw [reader_leftward hleft]
    refine h.last fun e he => ?_
    refine (takesText_many_nil hstop).last ?_
    rintro _ rfl
    exact takesText_pure he
  · rw [reader_rightwards hright]
    have hnone : TakesText (tail rules level <|> pure id) [] after fun f => f = id :=
      RefusesText.takesText_orElse hstop (takesText_pure rfl)
    refine h.last fun e he => hnone.last ?_
    rintro _ rfl
    exact takesText_pure he

theorem takesText_expression (hafter : StartsIn IsCloser after)
    (h : TakesText (unary rules) text after post) :
    TakesText (expression rules) text after post := by
  have hlevels : ∀ level ∈ [1, 2, 3, 4, 5, 6], level ∈ leftward ++ rightwards := by decide
  have hstep : ∀ level ∈ [1, 2, 3, 4, 5, 6], TakesText (reader rules (level + 1)) text after post →
      TakesText (reader rules level) text after post :=
    fun level hlevel => takesText_looser (hlevels level hlevel) hafter
  have hproduct : TakesText (reader rules 6) text after post := hstep 6 (by decide) h
  have hconcatenation : TakesText (reader rules 4) text after post :=
    hstep 4 (by decide) (hstep 5 (by decide) hproduct)
  exact hstep 1 (by decide) (hstep 2 (by decide) (hstep 3 (by decide) hconcatenation))

/-- No unary operator stands in front and no power behind. -/
theorem takesText_unary_of_suffixed (hafter : StartsIn IsCloser after)
    (hsign : unaryOp (text ++ after) = 0) (h : TakesText (suffixed rules) text after post) :
    TakesText (unary rules) text after post := by
  have hpower : 8 ∈ leftward ++ rightwards := by decide
  have hread : TakesText (power rules) text after post := takesText_looser hpower hafter h
  have hunary : RefusesText (unaryExpr rules) (text ++ after) :=
    (((refusesText_token hsign).bind _).located _).bind _
  exact hunary.takesText_orElse hread

/-- Neither a unary operator stands in front nor a suffix behind. -/
theorem takesText_unary (hafter : StartsIn IsCloser after) (hsign : unaryOp (text ++ after) = 0)
    (h : TakesText (primary rules) text after post) : TakesText (unary rules) text after post := by
  refine takesText_unary_of_suffixed hafter hsign ?_
  refine h.last fun e he => (takesText_many_nil (refusesText_suffix hafter)).last ?_
  rintro _ rfl
  exact takesText_pure he

end Grammar

end TemplateScript
