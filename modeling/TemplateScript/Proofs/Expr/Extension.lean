import Mathlib.Data.List.Forall2
import TemplateScript.Proofs.Expr.Adjacent
import TemplateScript.Proofs.Expr.Parenthesis

/-!
# Readers on a text and on a longer one

A reader is run on a text and on the same text with closing parentheses behind it. The runs can
differ only where the first one misses a closing parenthesis, and then the text opens more
parentheses than it closes. Elsewhere both fail or both stop at the same place, with results that
are related. This is kept by the ways in which readers are put together.
-/

namespace TemplateScript

open Token

/-- A token at two places. -/
structure SameToken (found found' : String × Location) : Prop where
  spelling : found.1 = found'.1
  tag : found.2.tag = found'.2.tag
  text : found.2.text = found'.2.text

namespace Reader

variable {α β : Type}

/-! ### Two runs -/

/-- How the runs go from a place in the text, with some parentheses open in front of it: the text
leaves one of them open, or both fail, or both succeed and stop at the same place. -/
inductive Agrees (after : List Char) (depth : Nat) (reader reader' : Reader α) (rel : α → α → Prop)
    (cursor cursor' : Cursor) : Prop
  | unclosed (h : 0 < surplus cursor.rest + depth)
  | refuses (h : Refuses reader cursor) (h' : Refuses reader' cursor')
  | gives {a a' : α} {later later' : Cursor} (h : Gives reader cursor a later)
      (h' : Gives reader' cursor' a' later') (hrest : later'.rest = later.rest ++ after)
      (hrel : rel a a')

/-- The first reader takes a text with fewer than `limit` characters left and leaves fewer than
`limit'`; there are `depth` parentheses open in front of what it takes and `depth'` behind. The
second one does the same with `after` behind the text. -/
structure Extends (after : List Char) (limit depth limit' depth' : Nat) (reader reader' : Reader α)
    (rel : α → α → Prop) : Prop where
  takes {cursor later : Cursor} {reach reach' : Reach} {a : α} (hlimit : cursor.rest.length < limit)
    (hrun : reader cursor reach = (some (a, later), reach')) :
    later.rest.length < limit' ∧ surplus cursor.rest + depth = surplus later.rest + depth' ∧
      ∃ a', rel a a'
  agrees {cursor cursor' : Cursor} (hlimit : cursor.rest.length < limit)
    (hrest : cursor'.rest = cursor.rest ++ after) :
    Agrees after depth reader reader' rel cursor cursor'

variable {after : List Char} {limit limit' limit'' depth depth' depth'' : Nat}
  {reader reader' : Reader α} {rel : α → α → Prop}

theorem Extends.weaken (h : Extends after limit depth limit' depth' reader reader' rel)
    (hlimit : limit' ≤ limit'') : Extends after limit depth limit'' depth' reader reader' rel :=
  ⟨fun hcursor hrun => (h.takes hcursor hrun).imp_left fun hlater =>
    Nat.lt_of_lt_of_le hlater hlimit, h.agrees⟩

theorem extends_pure {a a' : α} (h : rel a a') :
    Extends after limit depth limit depth (pure a) (pure a') rel where
  takes hlimit hrun := by
    rw [pure_run] at hrun
    obtain ⟨⟨rfl, rfl⟩, -⟩ := by simpa using hrun
    exact ⟨hlimit, rfl, a', h⟩
  agrees _ hrest := .gives (gives_pure a _) (gives_pure a' _) hrest h

theorem extends_get : Extends after limit depth limit depth get get fun _ _ => True where
  takes {cursor _ _ _ _} hlimit hrun := by
    rw [get_run] at hrun
    obtain ⟨⟨rfl, rfl⟩, -⟩ := by simpa using hrun
    exact ⟨hlimit, rfl, cursor, trivial⟩
  agrees _ hrest := .gives (gives_get _) (gives_get _) hrest trivial

theorem Extends.bind {next next' : α → Reader β} {rel' : β → β → Prop}
    (h : Extends after limit depth limit' depth' reader reader' rel)
    (hnext : ∀ a a', rel a a' →
      Extends after limit' depth' limit'' depth'' (next a) (next' a') rel') :
    Extends after limit depth limit'' depth'' (reader >>= next) (reader' >>= next') rel' where
  takes hlimit hrun := by
    rw [bind_run] at hrun
    split at hrun
    · next a middle reach₁ hfirst =>
        obtain ⟨hmiddle, hsurplus, a', hrel⟩ := h.takes hlimit hfirst
        obtain ⟨hlater, hsurplus', hresult⟩ := (hnext a a' hrel).takes hmiddle hrun
        exact ⟨hlater, hsurplus.trans hsurplus', hresult⟩
    · cases hrun
  agrees hlimit hrest := by
    cases h.agrees hlimit hrest with
    | unclosed hopen => exact .unclosed hopen
    | refuses hfirst hfirst' => exact .refuses (hfirst.bind next) (hfirst'.bind next')
    | @gives a a' middle middle' hfirst hfirst' hmiddle hrel =>
        obtain ⟨reach, hrun⟩ := hfirst Reach.start
        obtain ⟨hshort, hsurplus, -⟩ := h.takes hlimit hrun
        cases (hnext a a' hrel).agrees hshort hmiddle with
        | unclosed hopen => exact .unclosed (hsurplus ▸ hopen)
        | refuses hsecond hsecond' =>
            exact .refuses (hfirst.refuses_bind hsecond) (hfirst'.refuses_bind hsecond')
        | gives hsecond hsecond' hlater hrel' =>
            exact .gives (hfirst.bind hsecond) (hfirst'.bind hsecond') hlater hrel'

theorem Extends.orElse {second second' : Reader α}
    (h : Extends after limit depth limit' depth' reader reader' rel)
    (hsecond : Extends after limit depth limit' depth' second second' rel) :
    Extends after limit depth limit' depth' (reader <|> second) (reader' <|> second') rel where
  takes hlimit hrun := by
    rw [orElse_run] at hrun
    split at hrun
    · next found reach₁ hfound =>
        obtain ⟨rfl, -⟩ := Prod.mk.inj hrun |>.imp_left Option.some.inj
        exact h.takes hlimit hfound
    · exact hsecond.takes hlimit hrun
  agrees hlimit hrest := by
    cases h.agrees hlimit hrest with
    | unclosed hopen => exact .unclosed hopen
    | gives hfirst hfirst' hlater hrel =>
        exact .gives (hfirst.orElse second) (hfirst'.orElse second') hlater hrel
    | refuses hfirst hfirst' =>
        cases hsecond.agrees hlimit hrest with
        | unclosed hopen => exact .unclosed hopen
        | refuses hother hother' => exact .refuses (hfirst.orElse hother) (hfirst'.orElse hother')
        | gives hother hother' hlater hrel =>
            exact .gives (hfirst.gives_orElse hother) (hfirst'.gives_orElse hother') hlater hrel

theorem Extends.located (h : Extends after limit depth limit' depth' reader reader' rel)
    (tag : String) :
    Extends after limit depth limit' depth' (located tag reader) (located tag reader')
      fun found found' => rel found.1 found'.1 :=
  extends_get.bind fun _ _ _ => h.bind fun _ _ hrel => extends_get.bind fun _ _ _ =>
    extends_pure hrel

/-- The second reader may try more often than the first, which ends before it has tried as often as
it may. -/
theorem extends_manyUpTo
    (h : ∀ m < limit, Extends after (m + 1) depth m depth reader reader' rel) {count count' : Nat}
    (hcount : count < limit) (hle : count ≤ count') :
    Extends after (count + 1) depth (count + 1) depth (manyUpTo reader count)
      (manyUpTo reader' count') (List.Forall₂ rel) := by
  induction count generalizing count' with
  | zero =>
      cases count' with
      | zero => exact extends_pure .nil
      | succ count' =>
          have hnone : Extends after 1 depth 1 depth (pure []) (pure []) (List.Forall₂ rel) :=
            extends_pure .nil
          refine ⟨hnone.takes, fun {cursor cursor'} hlimit hrest => ?_⟩
          cases (h 0 hcount).agrees hlimit hrest with
          | unclosed hopen => exact .unclosed hopen
          | refuses _ hstop =>
              exact .gives (gives_pure [] cursor)
                ((hstop.bind _).gives_orElse (gives_pure [] cursor')) hrest .nil
          | gives hfirst =>
              obtain ⟨reach, hrun⟩ := hfirst Reach.start
              exact absurd ((h 0 hcount).takes hlimit hrun).1 (Nat.not_lt_zero _)
  | succ count ih =>
      obtain ⟨count', rfl⟩ : ∃ shorter, count' = shorter + 1 := ⟨count' - 1, by omega⟩
      have hrest := ih (Nat.lt_of_succ_lt hcount) (Nat.le_of_succ_le_succ hle)
      have hsome := (h (count + 1) hcount).bind fun first first' hfirst =>
        hrest.bind fun rest rest' hothers => extends_pure (List.Forall₂.cons hfirst hothers)
      exact (hsome.weaken (Nat.le_succ _)).orElse (extends_pure .nil)

theorem extends_many (h : ∀ m < limit, Extends after (m + 1) depth m depth reader reader' rel) :
    Extends after limit depth limit depth (many reader) (many reader') (List.Forall₂ rel) where
  takes hlimit hrun := by
    have hall := extends_manyUpTo h hlimit (Nat.le_refl _)
    exact ((hall.weaken hlimit).takes (Nat.lt_succ_self _) hrun)
  agrees {cursor cursor'} hlimit hrest := by
    have hle : cursor.rest.length ≤ cursor'.rest.length := by
      rw [hrest, List.length_append]
      exact Nat.le_add_right _ _
    cases (extends_manyUpTo h hlimit hle).agrees (Nat.lt_succ_self _) hrest with
    | unclosed hopen => exact .unclosed hopen
    | refuses hfirst hfirst' =>
        exact .refuses ((gives_get cursor).refuses_bind hfirst)
          ((gives_get cursor').refuses_bind hfirst')
    | gives hfirst hfirst' hlater hrel =>
        exact .gives ((gives_get cursor).bind hfirst) ((gives_get cursor').bind hfirst') hlater hrel

/-! ### Tokens in two runs -/

section

variable {length : List Char → Nat}

theorem takes_token (h : Passes after length) {cursor later : Cursor} {reach reach' : Reach}
    {text : List Char} (hrun : token length cursor reach = (some (text, later), reach')) :
    later.rest.length < cursor.rest.length ∧ surplus cursor.rest = surplus later.rest := by
  rw [token_run] at hrun
  split_ifs at hrun with habsent
  · cases hrun
  · obtain ⟨⟨-, rfl⟩, -⟩ := by simpa using hrun
    have hle := h.le_length cursor.rest
    refine ⟨?_, h.surplus_drop cursor.rest⟩
    rw [Cursor.skip, List.length_drop]
    omega

/-- The rule takes the same in both texts. -/
theorem agrees_token (h : Passes after length) {cursor cursor' : Cursor}
    (hrest : cursor'.rest = cursor.rest ++ after) :
    (length cursor.rest = 0 ∧ length cursor'.rest = 0) ∨
      ∃ text more, text ≠ [] ∧ length cursor.rest = text.length ∧ cursor.rest = text ++ more ∧
        length cursor'.rest = text.length ∧ cursor'.rest = text ++ (more ++ after) := by
  have hsame : length cursor'.rest = length cursor.rest := by rw [hrest, h.append]
  by_cases habsent : length cursor.rest = 0
  · exact .inl ⟨habsent, hsame.trans habsent⟩
  · have htaken : length cursor.rest = (cursor.rest.take (length cursor.rest)).length := by
      rw [List.length_take, Nat.min_eq_left (h.le_length cursor.rest)]
    have hsplit := (List.take_append_drop (length cursor.rest) cursor.rest).symm
    refine .inr ⟨_, _, fun hnil => habsent ?_, htaken, hsplit, hsame.trans htaken, ?_⟩
    · rw [htaken, hnil, List.length_nil]
    · rw [← List.append_assoc, ← hsplit, hrest]

theorem rest_skip {cursor : Cursor} {text more : List Char} (h : cursor.rest = text ++ more) :
    (cursor.skip text.length).rest = more := by
  rw [Cursor.skip, h, List.drop_left]

theorem extends_token (h : Passes after length) :
    Extends after (limit + 1) depth limit depth (token length) (token length) Eq where
  takes hlimit hrun := by
    obtain ⟨hshort, hsurplus⟩ := takes_token h hrun
    exact ⟨Nat.lt_of_lt_of_le hshort (Nat.le_of_lt_succ hlimit), by rw [hsurplus], _, rfl⟩
  agrees _ hrest := by
    rcases agrees_token h hrest with ⟨habsent, habsent'⟩ |
      ⟨text, more, hne, hlength, hhere, hlength', hthere⟩
    · exact .refuses (refuses_token habsent) (refuses_token habsent')
    · refine .gives (gives_token hhere hlength hne) (gives_token hthere hlength' hne) ?_ rfl
      rw [rest_skip hhere, rest_skip hthere]

theorem extends_locatedToken (h : Passes after length) (tag : String) :
    Extends after (limit + 1) depth limit depth (locatedToken tag length)
      (locatedToken tag length) SameToken where
  takes {cursor later _ _ found} hlimit hrun := by
    have hall : Extends after (limit + 1) depth limit depth (locatedToken tag length)
        (locatedToken tag length) fun _ _ => True :=
      ((extends_token h).located tag).bind fun _ _ _ => extends_pure trivial
    obtain ⟨hshort, hsurplus, -⟩ := hall.takes hlimit hrun
    exact ⟨hshort, hsurplus, found, rfl, rfl, rfl⟩
  agrees _ hrest := by
    rcases agrees_token h hrest with ⟨habsent, habsent'⟩ |
      ⟨text, more, hne, hlength, hhere, hlength', hthere⟩
    · exact .refuses (refusesText_locatedToken habsent tag _ rfl)
        (refusesText_locatedToken habsent' tag _ rfl)
    · obtain ⟨loc, hgives, htag, htext⟩ := gives_locatedToken hhere hlength hne tag
      obtain ⟨loc', hgives', htag', htext'⟩ := gives_locatedToken hthere hlength' hne tag
      refine .gives hgives hgives' ?_ ⟨rfl, htag.trans htag'.symm, htext.trans htext'.symm⟩
      rw [rest_skip hhere, rest_skip hthere]

end

theorem extends_blanks (hafter : Closing after) :
    Extends after limit depth limit depth blanks blanks Eq where
  takes {cursor _ _ _ _} hlimit hrun := by
    rw [blanks_run] at hrun
    obtain ⟨rfl, -⟩ := by simpa using hrun
    have hfree : ∀ c ∈ cursor.rest.takeWhile isBlank, ¬ IsFence c :=
      fun c hc => not_isFence_of_isBlank (List.mem_takeWhile_imp hc)
    have hsplit : cursor.rest = cursor.rest.takeWhile isBlank ++ cursor.rest.dropWhile isBlank :=
      List.takeWhile_append_dropWhile.symm
    have hlater := rest_skip hsplit
    refine ⟨?_, ?_, _, rfl⟩
    · rw [Cursor.skip, List.length_drop]
      omega
    · rw [hlater]
      conv_lhs => rw [hsplit, surplus_append_of_not_isFence hfree]
  agrees {cursor cursor'} _ hrest := by
    have hstart : StartsIn (isBlank · = false) after := hafter.startsIn (by decide)
    have hsame : cursor'.rest.takeWhile isBlank = cursor.rest.takeWhile isBlank := by
      rw [hrest, takeWhile_append_of_startsIn hstart]
    refine .gives (fun reach => ⟨reach, blanks_run cursor reach⟩)
      (fun reach => ⟨reach, blanks_run cursor' reach⟩) ?_ rfl
    rw [hsame, Cursor.skip, Cursor.skip, hrest,
      List.drop_append_of_le_length (List.takeWhile_prefix isBlank).length_le]

theorem Extends.spaced (hafter : Closing after)
    (h : Extends after limit depth limit' depth' reader reader' rel) :
    Extends after limit depth limit' depth' (spaced reader) (spaced reader') rel :=
  (extends_blanks hafter).bind fun _ _ _ => h

/-! ### At any depth -/

/-- What the reader takes closes the parentheses that it opens. -/
def Keeps (after : List Char) (limit : Nat) (reader reader' : Reader α) (rel : α → α → Prop) :
    Prop :=
  ∀ m ≤ limit, ∀ depth, Extends after m depth m depth reader reader' rel

/-- The same for a reader that takes a character at least. -/
def Advances (after : List Char) (limit : Nat) (reader reader' : Reader α) (rel : α → α → Prop) :
    Prop :=
  ∀ m ≤ limit, ∀ depth, Extends after (m + 1) depth m depth reader reader' rel

section

variable {second second' : Reader α} {next next' : α → Reader β} {rel' : β → β → Prop}

theorem keeps_pure {a a' : α} (h : rel a a') : Keeps after limit (pure a) (pure a') rel :=
  fun _ _ _ => extends_pure h

theorem Keeps.bind (h : Keeps after limit reader reader' rel)
    (hnext : ∀ a a', rel a a' → Keeps after limit (next a) (next' a') rel') :
    Keeps after limit (reader >>= next) (reader' >>= next') rel' :=
  fun m hm depth => (h m hm depth).bind fun a a' hrel => hnext a a' hrel m hm depth

theorem Keeps.orElse (h : Keeps after limit reader reader' rel)
    (hsecond : Keeps after limit second second' rel) :
    Keeps after limit (reader <|> second) (reader' <|> second') rel :=
  fun m hm depth => (h m hm depth).orElse (hsecond m hm depth)

theorem Keeps.spaced (h : Keeps after limit reader reader' rel) (hafter : Closing after) :
    Keeps after limit (spaced reader) (spaced reader') rel :=
  fun m hm depth => (h m hm depth).spaced hafter

theorem Advances.bind (h : Advances after limit reader reader' rel)
    (hnext : ∀ a a', rel a a' → Keeps after limit (next a) (next' a') rel') :
    Advances after limit (reader >>= next) (reader' >>= next') rel' :=
  fun m hm depth => (h m hm depth).bind fun a a' hrel => hnext a a' hrel m hm depth

/-- Only the result changes. -/
theorem Advances.last {f f' : α → β} (h : Advances after limit reader reader' rel)
    (hresult : ∀ a a', rel a a' → rel' (f a) (f' a')) :
    Advances after limit (do return f (← reader)) (do return f' (← reader')) rel' :=
  h.bind fun a a' hrel => keeps_pure (hresult a a' hrel)

theorem Advances.orElse (h : Advances after limit reader reader' rel)
    (hsecond : Advances after limit second second' rel) :
    Advances after limit (reader <|> second) (reader' <|> second') rel :=
  fun m hm depth => (h m hm depth).orElse (hsecond m hm depth)

theorem Advances.spaced (h : Advances after limit reader reader' rel) (hafter : Closing after) :
    Advances after limit (spaced reader) (spaced reader') rel :=
  fun m hm depth => (h m hm depth).spaced hafter

theorem Advances.located (h : Advances after limit reader reader' rel) (tag : String) :
    Advances after limit (located tag reader) (located tag reader')
      fun found found' => rel found.1 found'.1 :=
  fun m hm depth => (h m hm depth).located tag

theorem Advances.many (h : Advances after limit reader reader' rel) :
    Keeps after limit (many reader) (many reader') (List.Forall₂ rel) :=
  fun _ hm depth => extends_many fun k hk => h k (Nat.le_of_lt (Nat.lt_of_lt_of_le hk hm)) depth

/-- With no character left nothing is taken, so it is enough to look at the others. -/
theorem Advances.keeps_succ (h : Advances after limit reader reader' rel) :
    Keeps after (limit + 1) reader reader' rel := by
  intro m hm depth
  cases m with
  | zero => exact ⟨fun hnone => absurd hnone (Nat.not_lt_zero _),
      fun hnone => absurd hnone (Nat.not_lt_zero _)⟩
  | succ m => exact (h m (Nat.le_of_succ_le_succ hm) depth).weaken (Nat.le_succ m)

theorem Advances.keeps (h : Advances after limit reader reader' rel) :
    Keeps after limit reader reader' rel :=
  fun m hm => h.keeps_succ m (Nat.le_succ_of_le hm)

theorem advances_token {length : List Char → Nat} (h : Passes after length) :
    Advances after limit (token length) (token length) Eq :=
  fun _ _ _ => extends_token h

theorem advances_locatedToken {length : List Char → Nat} (h : Passes after length)
    (tag : String) :
    Advances after limit (locatedToken tag length) (locatedToken tag length) SameToken :=
  fun _ _ _ => extends_locatedToken h tag

end

end Reader

end TemplateScript
