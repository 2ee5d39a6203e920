import TemplateScript.Proofs.Expr.TokenRule
import TemplateScript.Proofs.Expr.Reader

/-!
# Reading written lexemes

A text stands for a list of lexemes if they are written in it one after another with blanks between
them. What a reader does there is said by the lexemes: it reads some of them and leaves the rest
behind the blanks that follow, or it rejects them. Two places differ, the one at the first lexeme
and the one behind the lexeme before it, where blanks come first.
-/

namespace TemplateScript

/-- The text begins with the first lexeme, and holds no others than these. -/
inductive Stands : List Lexeme → List Char → Prop
  | nil : Stands [] []
  | cons {t : Lexeme} {ts : List Lexeme} {text gap after : List Char} (htext : t.Spells text)
      (hgap : Gap gap) (hapart : ts ≠ [] → gap ≠ []) (hafter : Stands ts after) :
      Stands (t :: ts) (text ++ (gap ++ after))

/-- The lexemes make up the text, but for blanks. -/
def Written (ts : List Lexeme) (text : List Char) : Prop :=
  ∃ lead after, text = lead ++ after ∧ Gap lead ∧ Stands ts after

/-- The text begins with blanks behind another lexeme. -/
def Behind (ts : List Lexeme) (text : List Char) : Prop :=
  ∃ gap after, text = gap ++ after ∧ Gap gap ∧ (ts ≠ [] → gap ≠ []) ∧ Stands ts after

theorem stands_nil {text : List Char} (h : Stands [] text) : text = [] := by
  cases h
  rfl

theorem stands_cons {t : Lexeme} {ts : List Lexeme} {text : List Char}
    (h : Stands (t :: ts) text) :
    ∃ spelling after, text = spelling ++ after ∧ t.Spells spelling ∧ Behind ts after := by
  cases h with
  | cons htext hgap hapart hafter => exact ⟨_, _, rfl, htext, _, _, rfl, hgap, hapart, hafter⟩

theorem Behind.gapped {ts : List Lexeme} {text : List Char} (h : Behind ts text) :
    Gapped text := by
  obtain ⟨gap, after, rfl, hgap, hapart, hafter⟩ := h
  cases gap with
  | cons c rest =>
      intro d more heq
      obtain ⟨rfl, -⟩ := List.cons.inj heq
      exact hgap c List.mem_cons_self
  | nil =>
      obtain rfl : ts = [] := by
        by_contra hne
        exact hapart hne rfl
      obtain rfl := stands_nil hafter
      exact gapped_nil

theorem Behind.written {ts : List Lexeme} {text : List Char} (h : Behind ts text) :
    Written ts text := by
  obtain ⟨gap, after, htext, hgap, -, hafter⟩ := h
  exact ⟨gap, after, htext, hgap, hafter⟩

/-- The blanks in front end where the first lexeme begins. -/
theorem Written.takeWhile {ts : List Lexeme} {text : List Char} (h : Written ts text) :
    ∃ gap after, text = gap ++ after ∧ text.takeWhile isBlank = gap ∧ Stands ts after := by
  obtain ⟨gap, after, rfl, hgap, hafter⟩ := h
  have hstop : after.takeWhile isBlank = [] := by
    cases hafter with
    | nil => rfl
    | cons htext =>
        obtain ⟨c, rest, rfl, hc⟩ := htext.begins
        exact List.takeWhile_cons_of_neg (by rw [htext.not_isBlank hc]; exact Bool.false_ne_true)
  refine ⟨gap, after, rfl, ?_, hafter⟩
  rw [List.takeWhile_append_of_pos hgap, hstop, List.append_nil]

theorem Stands.length_le {ts : List Lexeme} {text : List Char} (h : Stands ts text) :
    ts.length ≤ text.length := by
  induction h with
  | nil => exact Nat.le_refl 0
  | cons htext _ _ _ ih =>
      obtain ⟨c, rest, rfl, -⟩ := htext.begins
      simp only [List.length_cons, List.length_append]
      omega

namespace Reader

variable {α β : Type}

/-! ### Runs that do not depend on the reach -/

/-- The reader takes a result and stops at the second cursor. -/
def Gives (reader : Reader α) (cursor : Cursor) (a : α) (later : Cursor) : Prop :=
  ∀ reach, ∃ reach', reader cursor reach = (some (a, later), reach')

def Refuses (reader : Reader α) (cursor : Cursor) : Prop :=
  ∀ reach, ∃ reach', reader cursor reach = (none, reach')

theorem gives_pure (a : α) (cursor : Cursor) : Gives (pure a) cursor a cursor :=
  fun reach => ⟨reach, pure_run a cursor reach⟩

theorem gives_get (cursor : Cursor) : Gives get cursor cursor cursor :=
  fun reach => ⟨reach, get_run cursor reach⟩

theorem Gives.bind {reader : Reader α} {next : α → Reader β} {cursor middle later : Cursor}
    {a : α} {b : β} (h : Gives reader cursor a middle) (hnext : Gives (next a) middle b later) :
    Gives (reader >>= next) cursor b later := by
  intro reach
  obtain ⟨reach₁, hrun⟩ := h reach
  obtain ⟨reach₂, hrun'⟩ := hnext reach₁
  exact ⟨reach₂, by rw [bind_run, hrun]; exact hrun'⟩

theorem Gives.refuses_bind {reader : Reader α} {next : α → Reader β} {cursor middle : Cursor}
    {a : α} (h : Gives reader cursor a middle) (hnext : Refuses (next a) middle) :
    Refuses (reader >>= next) cursor := by
  intro reach
  obtain ⟨reach₁, hrun⟩ := h reach
  obtain ⟨reach₂, hrun'⟩ := hnext reach₁
  exact ⟨reach₂, by rw [bind_run, hrun]; exact hrun'⟩

theorem Refuses.bind {reader : Reader α} {cursor : Cursor} (h : Refuses reader cursor)
    (next : α → Reader β) : Refuses (reader >>= next) cursor := by
  intro reach
  obtain ⟨reach', hrun⟩ := h reach
  exact ⟨reach', by rw [bind_run, hrun]⟩

theorem Gives.orElse {first : Reader α} {cursor later : Cursor} {a : α}
    (h : Gives first cursor a later) (second : Reader α) :
    Gives (first <|> second) cursor a later := by
  intro reach
  obtain ⟨reach', hrun⟩ := h reach
  exact ⟨reach', by rw [orElse_run, hrun]⟩

theorem Refuses.gives_orElse {first second : Reader α} {cursor later : Cursor} {a : α}
    (h : Refuses first cursor) (hsecond : Gives second cursor a later) :
    Gives (first <|> second) cursor a later := by
  intro reach
  obtain ⟨reach₁, hrun⟩ := h reach
  obtain ⟨reach₂, hrun'⟩ := hsecond reach₁
  exact ⟨reach₂, by rw [orElse_run, hrun]; exact hrun'⟩

theorem Refuses.orElse {first second : Reader α} {cursor : Cursor} (h : Refuses first cursor)
    (hsecond : Refuses second cursor) : Refuses (first <|> second) cursor := by
  intro reach
  obtain ⟨reach₁, hrun⟩ := h reach
  obtain ⟨reach₂, hrun'⟩ := hsecond reach₁
  exact ⟨reach₂, by rw [orElse_run, hrun]; exact hrun'⟩

theorem gives_token {length : List Char → Nat} {cursor : Cursor} {text after : List Char}
    (hrest : cursor.rest = text ++ after) (hlength : length cursor.rest = text.length)
    (hne : text ≠ []) : Gives (token length) cursor text (cursor.skip text.length) := by
  intro reach
  have hpositive : length cursor.rest ≠ 0 := by
    rw [hlength]
    exact fun hzero => hne (List.eq_nil_of_length_eq_zero hzero)
  refine ⟨reach, ?_⟩
  rw [token_run, if_neg hpositive, hlength, hrest, List.take_left]

/-- The location of a token holds its text. -/
theorem gives_locatedToken {length : List Char → Nat} {cursor : Cursor} {text after : List Char}
    (hrest : cursor.rest = text ++ after) (hlength : length cursor.rest = text.length)
    (hne : text ≠ []) (tag : String) :
    ∃ loc, Gives (locatedToken tag length) cursor (String.ofList text, loc)
      (cursor.skip text.length) ∧ loc.tag = some tag ∧ loc.text = some (String.ofList text) := by
  have hlocated : Gives (located tag (token length)) cursor
      (text, cursor.locationUpTo (cursor.skip text.length) tag) (cursor.skip text.length) :=
    (gives_get cursor).bind ((gives_token hrest hlength hne).bind
      ((gives_get _).bind (gives_pure _ _)))
  have hbetween : cursor.textUpTo (cursor.skip text.length) = text := by
    rw [Cursor.textUpTo, Cursor.skip, Nat.add_sub_cancel_left, hrest, List.take_left]
  refine ⟨cursor.locationUpTo (cursor.skip text.length) tag, hlocated.bind (gives_pure _ _), rfl,
    ?_⟩
  rw [Cursor.locationUpTo, hbetween]

theorem refuses_token {length : List Char → Nat} {cursor : Cursor}
    (hlength : length cursor.rest = 0) : Refuses (token length) cursor :=
  fun reach => ⟨reach.extend cursor, by rw [token_run, if_pos hlength]⟩

/-! ### The same reader again and again -/

/-- The reader takes some results one after another, each of at least one character. -/
inductive Repeats (reader : Reader α) : Cursor → List α → Cursor → Prop
  | nil (cursor : Cursor) : Repeats reader cursor [] cursor
  | cons {cursor middle later : Cursor} {a : α} {rest : List α} (h : Gives reader cursor a middle)
      (hshorter : middle.rest.length < cursor.rest.length)
      (hrest : Repeats reader middle rest later) : Repeats reader cursor (a :: rest) later

variable {reader : Reader α}

theorem Repeats.snoc {cursor middle later : Cursor} {results : List α} {a : α}
    (h : Repeats reader cursor results middle) (hlast : Gives reader middle a later)
    (hshorter : later.rest.length < middle.rest.length) :
    Repeats reader cursor (results ++ [a]) later := by
  induction h with
  | nil => exact .cons hlast hshorter (.nil later)
  | cons hfirst hfirstShorter _ ih => exact .cons hfirst hfirstShorter (ih hlast hshorter)

theorem Repeats.manyUpTo {cursor later : Cursor} {results : List α}
    (h : Repeats reader cursor results later) (hstop : Refuses reader later) {limit : Nat}
    (hlimit : cursor.rest.length ≤ limit) : Gives (manyUpTo reader limit) cursor results later := by
  -- The limit is never reached, since every repetition takes a character.
  induction h generalizing limit with
  | nil cursor =>
      cases limit with
      | zero => exact gives_pure [] cursor
      | succ limit => exact (hstop.bind _).gives_orElse (gives_pure [] cursor)
  | @cons _ middle later a rest hfirst hshorter _ ih =>
      cases limit with
      | zero => omega
      | succ limit =>
          have hrest : Gives (Reader.manyUpTo reader limit) middle rest later :=
            ih hstop (by omega)
          exact (hfirst.bind (hrest.bind (gives_pure (_ :: _) _))).orElse _

theorem Repeats.many {cursor later : Cursor} {results : List α}
    (h : Repeats reader cursor results later) (hstop : Refuses reader later) :
    Gives (many reader) cursor results later :=
  (gives_get cursor).bind (h.manyUpTo hstop (Nat.le_refl _))

/-- One operand, and then each tail applied to what stands on its left. -/
def Chain (operand : Reader α) (tail : Reader β) (apply : α → β → α) (cursor : Cursor) (a : α)
    (later : Cursor) : Prop :=
  ∃ first middle tails, Gives operand cursor first middle ∧ Repeats tail middle tails later ∧
    tails.foldl apply first = a

/-! ### What is read -/

/-- From a place in front of the lexemes `ts` and `more`, a run takes the first of them and stops
behind them with a result of this kind. A lexeme has at least one character. -/
def Reads (place : List Lexeme → List Char → Prop) (run : Cursor → α → Cursor → Prop)
    (ts more : List Lexeme) (post : α → Prop) : Prop :=
  ∀ cursor : Cursor, place (ts ++ more) cursor.rest → ∃ a later, run cursor a later ∧
    Behind more later.rest ∧ later.rest.length + ts.length ≤ cursor.rest.length ∧ post a

/-- In front of these lexemes the reader takes nothing. -/
def Rejects (place : List Lexeme → List Char → Prop) (reader : Reader α) (ts : List Lexeme) :
    Prop :=
  ∀ cursor : Cursor, place ts cursor.rest → Refuses reader cursor

variable {place : List Lexeme → List Char → Prop} {ts us more : List Lexeme} {post : α → Prop}

theorem Reads.mono {run : Cursor → α → Cursor → Prop} (h : Reads place run ts more post)
    {post' : α → Prop} (himp : ∀ a, post a → post' a) : Reads place run ts more post' := by
  intro cursor hplace
  obtain ⟨a, later, hrun, hbehind, hlength, hpost⟩ := h cursor hplace
  exact ⟨a, later, hrun, hbehind, hlength, himp a hpost⟩

theorem Reads.bind {next : α → Reader β} {post' : β → Prop}
    (h : Reads place (Gives reader) ts (us ++ more) post)
    (hnext : ∀ a, post a → Reads Behind (Gives (next a)) us more post') :
    Reads place (Gives (reader >>= next)) (ts ++ us) more post' := by
  intro cursor hplace
  rw [List.append_assoc] at hplace
  obtain ⟨a, middle, hrun, hbehind, hlength, hpost⟩ := h cursor hplace
  obtain ⟨b, later, hrun', hbehind', hlength', hpost'⟩ := hnext a hpost middle hbehind
  refine ⟨b, later, hrun.bind hrun', hbehind', ?_, hpost'⟩
  rw [List.length_append]
  omega

theorem reads_pure {a : α} (h : post a) : Reads Behind (Gives (pure a)) [] more post := by
  intro cursor hplace
  exact ⟨a, cursor, gives_pure a cursor, hplace, Nat.le_refl _, h⟩

/-- What follows a reader takes no lexeme. -/
theorem Reads.last {next : α → Reader β} {post' : β → Prop}
    (h : Reads place (Gives reader) ts more post)
    (hnext : ∀ a, post a → Reads Behind (Gives (next a)) [] more post') :
    Reads place (Gives (reader >>= next)) ts more post' := by
  have hbind : Reads place (Gives (reader >>= next)) (ts ++ []) more post' := Reads.bind h hnext
  rwa [List.append_nil] at hbind

theorem Reads.orElse (h : Reads place (Gives reader) ts more post) (second : Reader α) :
    Reads place (Gives (reader <|> second)) ts more post := by
  intro cursor hplace
  obtain ⟨a, later, hrun, hrest⟩ := h cursor hplace
  exact ⟨a, later, hrun.orElse second, hrest⟩

theorem Rejects.reads_orElse {second : Reader α} (h : Rejects place reader (ts ++ more))
    (hsecond : Reads place (Gives second) ts more post) :
    Reads place (Gives (reader <|> second)) ts more post := by
  intro cursor hplace
  obtain ⟨a, later, hrun, hrest⟩ := hsecond cursor hplace
  exact ⟨a, later, (h cursor hplace).gives_orElse hrun, hrest⟩

theorem Rejects.orElse {second : Reader α} (h : Rejects place reader ts)
    (hsecond : Rejects place second ts) : Rejects place (reader <|> second) ts :=
  fun cursor hplace => (h cursor hplace).orElse (hsecond cursor hplace)

theorem Rejects.bind (h : Rejects place reader ts) (next : α → Reader β) :
    Rejects place (reader >>= next) ts :=
  fun cursor hplace => (h cursor hplace).bind next

/-- The reader is there, but what has to follow it is not. -/
theorem Reads.rejects_bind {next : α → Reader β} (h : Reads place (Gives reader) ts more post)
    (hnext : ∀ a, post a → Rejects Behind (next a) more) :
    Rejects place (reader >>= next) (ts ++ more) := by
  intro cursor hplace
  obtain ⟨a, middle, hrun, hbehind, -, hpost⟩ := h cursor hplace
  exact hrun.refuses_bind (hnext a hpost middle hbehind)

theorem gives_blanks {cursor : Cursor} (h : Written ts cursor.rest) :
    ∃ later : Cursor, Gives blanks cursor () later ∧ Stands ts later.rest ∧
      later.rest.length ≤ cursor.rest.length := by
  obtain ⟨gap, after, hrest, hgap, hafter⟩ := h.takeWhile
  refine ⟨cursor.skip gap.length, fun reach => ⟨reach, ?_⟩, ?_, ?_⟩
  · rw [blanks_run, hgap]
  · rwa [Cursor.skip, hrest, List.drop_left]
  · rw [Cursor.skip, List.length_drop]
    exact Nat.sub_le _ _

theorem Reads.spaced (h : Reads Stands (Gives reader) ts more post) :
    Reads Behind (Gives (spaced reader)) ts more post := by
  intro cursor hplace
  obtain ⟨middle, hblanks, hstands, hshorter⟩ := gives_blanks hplace.written
  obtain ⟨a, later, hrun, hbehind, hlength, hpost⟩ := h middle hstands
  exact ⟨a, later, hblanks.bind hrun, hbehind, Nat.le_trans hlength hshorter, hpost⟩

theorem Rejects.spaced (h : Rejects Stands reader ts) : Rejects Behind (spaced reader) ts := by
  intro cursor hplace
  obtain ⟨middle, hblanks, hstands, -⟩ := gives_blanks hplace.written
  exact hblanks.refuses_bind (h middle hstands)

theorem Reads.located (h : Reads place (Gives reader) ts more post) (tag : String) :
    Reads place (Gives (located tag reader)) ts more fun found => post found.1 := by
  intro cursor hplace
  obtain ⟨a, later, hrun, hbehind, hlength, hpost⟩ := h cursor hplace
  refine ⟨(a, cursor.locationUpTo later tag), later, ?_, hbehind, hlength, hpost⟩
  exact (gives_get cursor).bind (hrun.bind ((gives_get later).bind (gives_pure _ _)))

theorem Rejects.located (h : Rejects place reader ts) (tag : String) :
    Rejects place (located tag reader) ts :=
  fun cursor hplace => (gives_get cursor).refuses_bind ((h cursor hplace).bind _)

variable {length : List Char → Nat} {t : Lexeme}

theorem gives_lexeme (h : Token.Accepts length t) {cursor : Cursor}
    (hplace : Stands (t :: more) cursor.rest) :
    ∃ text after, t.Spells text ∧ cursor.rest = text ++ after ∧ Behind more after ∧ text ≠ [] ∧
      Gives (token length) cursor text (cursor.skip text.length) := by
  obtain ⟨text, after, hrest, htext, hafter⟩ := stands_cons hplace
  have hne : text ≠ [] := by
    obtain ⟨c, rest, rfl, -⟩ := htext.begins
    exact List.cons_ne_nil c rest
  have hlength : length cursor.rest = text.length := by
    rw [hrest, h text after htext hafter.gapped]
  exact ⟨text, after, htext, hrest, hafter, hne, gives_token hrest hlength hne⟩

theorem reads_token (h : Token.Accepts length t) :
    Reads Stands (Gives (token length)) [t] more t.Spells := by
  intro cursor hplace
  obtain ⟨text, after, htext, hrest, hafter, hne, hgives⟩ := gives_lexeme h hplace
  have hlater : (cursor.skip text.length).rest = after := by
    rw [Cursor.skip, hrest, List.drop_left]
  refine ⟨text, _, hgives, hlater ▸ hafter, ?_, htext⟩
  rw [hlater, hrest, List.length_append, List.length_singleton]
  have := List.length_pos_iff.mpr hne
  omega

theorem reads_locatedToken (h : Token.Accepts length t) (tag : String) :
    Reads Stands (Gives (locatedToken tag length)) [t] more fun found =>
      t.Spells found.1.toList ∧ found.2.tag = some tag ∧ found.2.text = some found.1 := by
  intro cursor hplace
  obtain ⟨text, after, htext, hrest, hafter, hne, -⟩ := gives_lexeme h hplace
  have hlength : length cursor.rest = text.length := by
    rw [hrest, h text after htext hafter.gapped]
  obtain ⟨loc, hgives, htag, hshown⟩ := gives_locatedToken hrest hlength hne tag
  have hlater : (cursor.skip text.length).rest = after := by
    rw [Cursor.skip, hrest, List.drop_left]
  refine ⟨(String.ofList text, loc), _, hgives, hlater ▸ hafter, ?_, ?_, htag, hshown⟩
  · rw [hlater, hrest, List.length_append, List.length_singleton]
    have := List.length_pos_iff.mpr hne
    omega
  · rwa [String.toList_ofList]

theorem rejects_token (h : Token.Denies length t) : Rejects Stands (token length) (t :: more) := by
  intro cursor hplace
  obtain ⟨text, after, hrest, htext, hafter⟩ := stands_cons hplace
  exact refuses_token (by rw [hrest, h text after htext hafter.gapped])

theorem rejects_token_nil (h : length [] = 0) : Rejects Stands (token length) [] := by
  intro cursor hplace
  exact refuses_token (by rw [stands_nil hplace, h])

theorem Rejects.locatedToken (h : Rejects Stands (token length) ts) (tag : String) :
    Rejects Stands (locatedToken tag length) ts :=
  (h.located tag).bind _

/-! ### What is read again and again -/

theorem reads_repeats_nil :
    Reads Behind (Repeats reader) [] more fun results => results = [] := by
  intro cursor hplace
  exact ⟨[], cursor, .nil cursor, hplace, Nat.le_refl _, rfl⟩

theorem Reads.repeats_cons {posts : List α → Prop}
    (h : Reads Behind (Gives reader) ts (us ++ more) post) (hne : ts ≠ [])
    (hrest : Reads Behind (Repeats reader) us more posts) :
    Reads Behind (Repeats reader) (ts ++ us) more fun results =>
      ∃ a rest, results = a :: rest ∧ post a ∧ posts rest := by
  intro cursor hplace
  rw [List.append_assoc] at hplace
  obtain ⟨a, middle, hrun, hbehind, hlength, hpost⟩ := h cursor hplace
  obtain ⟨rest, later, hrun', hbehind', hlength', hpost'⟩ := hrest middle hbehind
  have hpositive := List.length_pos_iff.mpr hne
  refine ⟨a :: rest, later, .cons hrun (by omega) hrun', hbehind', ?_, a, rest, rfl, hpost, hpost'⟩
  rw [List.length_append]
  omega

theorem Reads.many {posts : List α → Prop} (h : Reads Behind (Repeats reader) ts more posts)
    (hstop : Rejects Behind reader more) : Reads Behind (Gives (many reader)) ts more posts := by
  intro cursor hplace
  obtain ⟨results, later, hrun, hbehind, hrest⟩ := h cursor hplace
  exact ⟨results, later, hrun.many (hstop later hbehind), hbehind, hrest⟩

variable {operand : Reader α} {tail : Reader β} {apply : α → β → α}

theorem Reads.chain (h : Reads place (Gives operand) ts more post) :
    Reads place (Chain operand tail apply) ts more post := by
  intro cursor hplace
  obtain ⟨a, later, hrun, hrest⟩ := h cursor hplace
  exact ⟨a, later, ⟨a, later, [], hrun, .nil later, rfl⟩, hrest⟩

/-- A chain ends where no tail follows. -/
theorem Reads.chain_end (h : Reads place (Chain operand tail apply) ts more post)
    (hstop : Rejects Behind tail more) :
    Reads place (Gives do
      let first ← operand
      let tails ← Reader.many tail
      return tails.foldl apply first) ts more post := by
  intro cursor hplace
  obtain ⟨_, later, ⟨first, middle, tails, hfirst, htails, rfl⟩, hbehind, hrest⟩ := h cursor hplace
  have htails' := htails.many (hstop later hbehind)
  exact ⟨_, later, hfirst.bind (htails'.bind (gives_pure _ later)), hbehind, hrest⟩

theorem Reads.chain_snoc {posts : β → Prop} {post' : α → Prop}
    (h : Reads place (Chain operand tail apply) ts (us ++ more) post)
    (htail : Reads Behind (Gives tail) us more posts) (hne : us ≠ [])
    (hjoin : ∀ a b, post a → posts b → post' (apply a b)) :
    Reads place (Chain operand tail apply) (ts ++ us) more post' := by
  intro cursor hplace
  rw [List.append_assoc] at hplace
  obtain ⟨a, middle, ⟨first, start, tails, hfirst, htails, rfl⟩, hbehind, hlength, hpost⟩ :=
    h cursor hplace
  obtain ⟨b, later, hrun, hbehind', hlength', hpost'⟩ := htail middle hbehind
  have hpositive := List.length_pos_iff.mpr hne
  refine ⟨_, later, ⟨first, start, tails ++ [b], hfirst, htails.snoc hrun (by omega), rfl⟩,
    hbehind', ?_, ?_⟩
  · rw [List.length_append]
    omega
  · rw [List.foldl_append]
    exact hjoin _ _ hpost hpost'

end Reader

end TemplateScript
