import Mathlib.Data.List.TakeWhile
import TemplateScript.Expr.Cursor

/-!
# What readers take

A reader that succeeds has taken a text off the front of what its cursor left, and stands behind it.
`Ensures` says of every success how the place, the text taken and the result belong together,
whatever the reach was before. It follows the way in which readers are put together.
-/

namespace TemplateScript

namespace Cursor

/-- One cursor stands behind `text`, which begins at the other. -/
structure Moves (cursor : Cursor) (text : List Char) (later : Cursor) : Prop where
  rest : cursor.rest = text ++ later.rest
  offset : later.offset = cursor.offset + text.length
  position : later.position = cursor.position.advance text

theorem Moves.refl (cursor : Cursor) : cursor.Moves [] cursor := ⟨rfl, rfl, rfl⟩

theorem Moves.trans {cursor middle later : Cursor} {left right : List Char}
    (hleft : cursor.Moves left middle) (hright : middle.Moves right later) :
    cursor.Moves (left ++ right) later where
  rest := by rw [hleft.rest, hright.rest, List.append_assoc]
  offset := by rw [hright.offset, hleft.offset, List.length_append, Nat.add_assoc]
  position := by rw [hright.position, hleft.position, Position.advance_append]

theorem moves_skip {cursor : Cursor} {text after : List Char} (h : cursor.rest = text ++ after) :
    cursor.Moves text (cursor.skip text.length) where
  rest := by rw [skip, h, List.drop_left]
  offset := rfl
  position := by rw [skip, h, List.take_left]

end Cursor

namespace Token

/-- The first `count` characters of a source are there and make one of the given texts. -/
def TakesFrom (texts : List Char → Prop) (source : List Char) (count : Nat) : Prop :=
  ∃ text after, source = text ++ after ∧ count = text.length ∧ texts text

/-- A token takes one of the given texts; the empty one stands for its absence. -/
def Takes (length : List Char → Nat) (texts : List Char → Prop) : Prop :=
  ∀ source, TakesFrom texts source (length source)

theorem absent {texts : List Char → Prop} (h : texts []) (source : List Char) :
    TakesFrom texts source 0 :=
  ⟨[], source, rfl, rfl, h⟩

theorem Takes.mono {length : List Char → Nat} {texts texts' : List Char → Prop}
    (h : Takes length texts) (himp : ∀ text, texts text → texts' text) : Takes length texts' := by
  intro source
  obtain ⟨text, after, hsource, hlength, htext⟩ := h source
  exact ⟨text, after, hsource, hlength, himp text htext⟩

theorem Takes.max {left right : List Char → Nat} {texts : List Char → Prop}
    (hleft : Takes left texts) (hright : Takes right texts) :
    Takes (fun text => Nat.max (left text) (right text)) texts := by
  intro source
  rcases Nat.le_total (left source) (right source) with h | h
  · simpa only [Nat.max_eq_right h] using hright source
  · simpa only [Nat.max_eq_left h] using hleft source

/-- A character in front of a token. -/
theorem TakesFrom.behind {texts texts' : List Char → Prop} {c : Char} {rest : List Char}
    {count : Nat} (h : TakesFrom texts rest count)
    (hcons : ∀ text, texts text → texts' (c :: text)) :
    TakesFrom texts' (c :: rest) (count + 1) := by
  obtain ⟨text, after, hrest, hcount, htext⟩ := h
  exact ⟨c :: text, after, by rw [hrest, List.cons_append], by rw [hcount, List.length_cons],
    hcons text htext⟩

/-- One token after another, the second counted from where the first ends. -/
theorem TakesFrom.join {first second texts : List Char → Prop} {source : List Char} {count : Nat}
    {length : List Char → Nat} (hleft : TakesFrom first source count)
    (hright : Takes length second)
    (hjoin : ∀ left right, first left → second right → texts (left ++ right)) :
    TakesFrom texts source (count + length (source.drop count)) := by
  obtain ⟨text, after, hsource, hcount, htext⟩ := hleft
  obtain ⟨more, rest, hafter, hmore, hsecond⟩ := hright after
  refine ⟨text ++ more, rest, by rw [hsource, hafter, List.append_assoc], ?_,
    hjoin text more htext hsecond⟩
  rw [hcount, hsource, List.drop_left, hmore, List.length_append]

/-- What is there is not empty. -/
theorem TakesFrom.filled {texts : List Char → Prop} {source : List Char} {count : Nat}
    (h : TakesFrom texts source count) (hcount : count ≠ 0) :
    TakesFrom (fun text => text ≠ [] ∧ texts text) source count := by
  obtain ⟨text, after, hsource, hlength, htext⟩ := h
  refine ⟨text, after, hsource, hlength, ?_, htext⟩
  rintro rfl
  exact hcount hlength

theorem TakesFrom.le_length {texts : List Char → Prop} {source : List Char} {count : Nat}
    (h : TakesFrom texts source count) : count ≤ source.length := by
  obtain ⟨text, after, rfl, rfl, -⟩ := h
  rw [List.length_append]
  exact Nat.le_add_right _ _

end Token

namespace Reader

variable {α β : Type}

/-! ### Runs -/

theorem pure_run (a : α) (cursor : Cursor) (reach : Reach) :
    (pure a : Reader α) cursor reach = (some (a, cursor), reach) :=
  rfl

theorem get_run (cursor : Cursor) (reach : Reach) :
    (get : Reader Cursor) cursor reach = (some (cursor, cursor), reach) :=
  rfl

theorem blanks_run (cursor : Cursor) (reach : Reach) :
    blanks cursor reach =
      (some ((), cursor.skip (cursor.rest.takeWhile isBlank).length), reach) :=
  rfl

theorem bind_run (reader : Reader α) (next : α → Reader β) (cursor : Cursor) (reach : Reach) :
    (reader >>= next) cursor reach =
      match reader cursor reach with
      | (some (a, later), reach') => next a later reach'
      | (none, reach') => (none, reach') := by
  simp only [bind, StateT.bind, OptionT.bind, OptionT.mk]
  rcases reader cursor reach with ⟨_ | ⟨a, later⟩, reach'⟩ <;> rfl

theorem orElse_run (first second : Reader α) (cursor : Cursor) (reach : Reach) :
    (first <|> second) cursor reach =
      match first cursor reach with
      | (some found, reach') => (some found, reach')
      | (none, reach') => second cursor reach' := by
  simp only [HOrElse.hOrElse, OrElse.orElse, Alternative.orElse, StateT.orElse, OptionT.orElse,
    OptionT.mk, bind, StateT.bind]
  rcases first cursor reach with ⟨_ | found, reach'⟩ <;> rfl

theorem token_run (length : List Char → Nat) (cursor : Cursor) (reach : Reach) :
    token length cursor reach =
      if length cursor.rest = 0 then (none, reach.extend cursor)
      else (some (cursor.rest.take (length cursor.rest), cursor.skip (length cursor.rest)),
        reach) := by
  by_cases habsent : length cursor.rest = 0
  · simp only [token, if_pos habsent]
    rfl
  · simp only [token, if_neg habsent]
    rfl

theorem located_run (tag : String) (reader : Reader α) (cursor : Cursor) (reach : Reach) :
    located tag reader cursor reach =
      match reader cursor reach with
      | (some (a, later), reach') => (some ((a, cursor.locationUpTo later tag), later), reach')
      | (none, reach') => (none, reach') := by
  rw [located, bind_run, get_run]
  dsimp only
  rw [bind_run]
  rcases reader cursor reach with ⟨_ | ⟨a, later⟩, reach'⟩ <;> rfl

/-! ### What a success ensures -/

def Ensures (reader : Reader α) (post : Cursor → List Char → α → Prop) : Prop :=
  ∀ cursor reach result later reach', reader cursor reach = (some (result, later), reach') →
    ∃ text, cursor.Moves text later ∧ post cursor text result

variable {post : Cursor → List Char → α → Prop}

theorem Ensures.mono {reader : Reader α} {post' : Cursor → List Char → α → Prop}
    (h : reader.Ensures post) (himp : ∀ cursor text a, post cursor text a → post' cursor text a) :
    reader.Ensures post' := by
  intro cursor reach result later reach' hrun
  obtain ⟨text, hmoves, hpost⟩ := h cursor reach result later reach' hrun
  exact ⟨text, hmoves, himp cursor text result hpost⟩

theorem ensures_pure (a : α) :
    (pure a : Reader α).Ensures fun _ text result => text = [] ∧ result = a := by
  intro cursor reach result later reach' hrun
  rw [pure_run] at hrun
  obtain ⟨⟨rfl, rfl⟩, -⟩ := by simpa using hrun
  exact ⟨[], .refl cursor, rfl, rfl⟩

theorem ensures_get :
    (get : Reader Cursor).Ensures fun cursor text a => text = [] ∧ a = cursor := by
  intro cursor reach result later reach' hrun
  rw [get_run] at hrun
  obtain ⟨⟨rfl, rfl⟩, -⟩ := by simpa using hrun
  exact ⟨[], .refl cursor, rfl, rfl⟩

theorem ensures_blanks : blanks.Ensures fun _ text _ => ∀ c ∈ text, isBlank c := by
  intro cursor reach result later reach' hrun
  rw [blanks_run] at hrun
  obtain ⟨rfl, -⟩ := by simpa using hrun
  exact ⟨_, Cursor.moves_skip (List.takeWhile_append_dropWhile).symm, fun c =>
    List.mem_takeWhile_imp⟩

theorem Ensures.bind {reader : Reader α} {next : α → Reader β}
    {post' : α → Cursor → List Char → β → Prop} {posts : Cursor → List Char → β → Prop}
    (h : reader.Ensures post) (hnext : ∀ a, (next a).Ensures (post' a))
    (hjoin : ∀ cursor middle left right a b, cursor.Moves left middle → post cursor left a →
      post' a middle right b → posts cursor (left ++ right) b) :
    (reader >>= next).Ensures posts := by
  intro cursor reach result later reach' hrun
  rw [bind_run] at hrun
  split at hrun
  · next a middle reach₁ hfirst =>
      obtain ⟨left, hleft, hpost⟩ := h _ _ _ _ _ hfirst
      obtain ⟨right, hright, hpost'⟩ := hnext a _ _ _ _ _ hrun
      exact ⟨left ++ right, hleft.trans hright, hjoin _ _ _ _ _ _ hleft hpost hpost'⟩
  · cases hrun

theorem Ensures.orElse {first second : Reader α} (hfirst : first.Ensures post)
    (hsecond : second.Ensures post) : (first <|> second).Ensures post := by
  intro cursor reach result later reach' hrun
  rw [orElse_run] at hrun
  split at hrun
  · next found reach₁ hfound =>
      obtain ⟨rfl, -⟩ := Prod.mk.inj hrun |>.imp_left Option.some.inj
      exact hfirst _ _ _ _ _ hfound
  · exact hsecond _ _ _ _ _ hrun

theorem Ensures.and {reader : Reader α} {post post' : Cursor → List Char → α → Prop}
    (h : reader.Ensures post) (h' : reader.Ensures post') :
    reader.Ensures fun cursor text a => post cursor text a ∧ post' cursor text a := by
  intro cursor reach result later reach' hrun
  obtain ⟨text, hmoves, hpost⟩ := h _ _ _ _ _ hrun
  obtain ⟨text', hmoves', hpost'⟩ := h' _ _ _ _ _ hrun
  obtain rfl : text = text' := List.append_cancel_right (hmoves.rest.symm.trans hmoves'.rest)
  exact ⟨text, hmoves, hpost, hpost'⟩

/-- The location is that of the text that is taken. -/
theorem Ensures.located {reader : Reader α} (h : reader.Ensures post) (tag : String) :
    (located tag reader).Ensures fun cursor text found => post cursor text found.1 ∧
      found.2 = ⟨cursor.position, some tag, some (String.ofList text)⟩ := by
  intro cursor reach result later reach' hrun
  rw [located_run] at hrun
  split at hrun
  · next a middle reach₁ hfound =>
      obtain ⟨⟨rfl, rfl⟩, -⟩ := by simpa using hrun
      obtain ⟨text, hmoves, hpost⟩ := h _ _ _ _ _ hfound
      refine ⟨text, hmoves, hpost, ?_⟩
      rw [Cursor.locationUpTo, Cursor.textUpTo, hmoves.rest, hmoves.offset,
        Nat.add_sub_cancel_left, List.take_left]
  · cases hrun

theorem ensures_token {length : List Char → Nat} {texts : List Char → Prop}
    (h : Token.Takes length texts) :
    (token length).Ensures fun _ text result => texts text ∧ result = text ∧ text ≠ [] := by
  intro cursor reach result later reach' hrun
  obtain ⟨text, after, hrest, hlength, htext⟩ := h cursor.rest
  rw [token_run, hlength] at hrun
  split_ifs at hrun with habsent
  · cases hrun
  · obtain ⟨⟨rfl, rfl⟩, -⟩ := by simpa using hrun
    refine ⟨text, Cursor.moves_skip hrest, htext, ?_, by simpa using habsent⟩
    rw [hrest, List.take_left]

end Reader

end TemplateScript
