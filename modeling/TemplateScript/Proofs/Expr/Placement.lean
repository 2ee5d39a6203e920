import TemplateScript.Text.Blank
import TemplateScript.Proofs.Document.Placement

/-!
# Where the nodes of an expression stand

An expression is laid out in a text. An operator points at its token, which stands between the
texts of its operands. An index, a call or a method call points at its suffix, which stands behind
the text of what it is applied to. Every other node points at all of its text. `Laid` says this of a
node and of all below it, with the position from which the text is counted.

Whatever occurs in an expression that is laid out is laid out in a part of the text, so the whole
layout is known at each node.
-/

namespace TemplateScript

namespace Position

/-- One position comes before another, as the text is read. -/
def Before (p q : Position) : Prop :=
  p.line < q.line ∨ p.line = q.line ∧ p.column < q.column

theorem Before.trans {p q r : Position} (hpq : p.Before q) (hqr : q.Before r) : p.Before r := by
  unfold Before at *
  omega

theorem before_next (p : Position) (c : Char) : p.Before (p.next c) := by
  unfold Before next
  split_ifs
  · exact .inl (Nat.lt_succ_self _)
  · exact .inr ⟨rfl, Nat.lt_succ_self _⟩

theorem before_advance (p : Position) {text : List Char} (h : text ≠ []) :
    p.Before (p.advance text) := by
  induction text generalizing p with
  | nil => exact absurd rfl h
  | cons c rest ih =>
      cases rest with
      | nil => exact before_next p c
      | cons d more => exact (before_next p c).trans (ih (p.next c) (List.cons_ne_nil d more))

theorem behind_advance (before text : List Char) :
    (behind before).advance text = behind (before ++ text) := by
  rw [← start_advance, ← start_advance, advance_append]

end Position

/-- A text of blanks, or none. -/
def AreBlank (text : List Char) : Prop := ∀ c ∈ text, isBlank c

/-- The first character of a text is one of the given signs. -/
def BeginsWith (signs text : List Char) : Prop := ∃ sign ∈ signs, text.head? = some sign

theorem BeginsWith.append {signs text : List Char} (h : BeginsWith signs text)
    (more : List Char) : BeginsWith signs (text ++ more) := by
  obtain ⟨sign, hsign, hhead⟩ := h
  exact ⟨sign, hsign, by rw [List.head?_append, hhead, Option.some_or]⟩

theorem BeginsWith.ne_nil {signs text : List Char} (h : BeginsWith signs text) : text ≠ [] := by
  rintro rfl
  obtain ⟨_, _, hhead⟩ := h
  cases hhead

/-- The key of a field, if it has one, and its value. -/
def fieldParts (field : Option Expr × Expr) : List Expr := field.1.toList ++ [field.2]

namespace Expr

/-! ### Parts -/

/-- The nodes right below a node, as they follow one another in the text. -/
def parts : Expr → List Expr
  | .literal _ _ | .variable _ _ | .bare _ => []
  | .index obj key _ => [obj, key]
  | .call fn args _ => fn :: args
  | .methodCall obj _ args _ => obj :: args
  | .binary _ left right _ | .logical _ left right _ => [left, right]
  | .unary _ operand _ => [operand]
  | .paren inner _ => [inner]
  | .tableConstructor fields _ => fields.flatMap fieldParts

/-- The spelling of an operator between two operands, and the operands. -/
def operator? : Expr → Option (String × Expr × Expr)
  | .binary op left right _ => some (op.spelling, left, right)
  | .logical op left right _ => some (op.spelling, left, right)
  | _ => none

/-- What a suffix is applied to, the signs it may begin with and what it holds. -/
def suffix? : Expr → Option (Expr × List Char × List Expr)
  | .index obj key _ => some (obj, ['.', '['], [key])
  | .call fn args _ => some (fn, ['(', '"', '\'', '\x7b'], args)
  | .methodCall obj _ args _ => some (obj, [':'], args)
  | _ => none

/-- The suffixes that are applied one after another, from the inner to the outer. -/
def suffixes : Expr → List Expr
  | .index obj key loc => obj.suffixes ++ [.index obj key loc]
  | .call fn args loc => fn.suffixes ++ [.call fn args loc]
  | .methodCall obj name args loc => obj.suffixes ++ [.methodCall obj name args loc]
  | _ => []

/-- A node of an expression. -/
inductive Occurs : Expr → Expr → Prop
  | root (e : Expr) : Occurs e e
  | part {e part node : Expr} (hpart : part ∈ e.parts) (hnode : Occurs part node) : Occurs e node

variable {e part node left right obj : Expr} {op : String} {signs : List Char} {args : List Expr}

theorem parts_of_operator (h : e.operator? = some (op, left, right)) : e.parts = [left, right] := by
  cases e <;> cases h <;> rfl

theorem parts_of_suffix (h : e.suffix? = some (obj, signs, args)) : e.parts = obj :: args := by
  cases e <;> cases h <;> rfl

theorem suffix?_of_operator (h : e.operator? = some (op, left, right)) : e.suffix? = none := by
  cases e <;> cases h <;> rfl

theorem occurs_of_mem_suffixes (h : node ∈ e.suffixes) :
    e.Occurs node ∧ ∃ obj signs args, node.suffix? = some (obj, signs, args) := by
  fun_induction suffixes e with
  | case1 _ _ _ ih | case2 _ _ _ ih | case3 _ _ _ _ ih =>
      rcases List.mem_append.mp h with hinner | hself
      · exact (ih hinner).imp_left (.part List.mem_cons_self)
      · obtain rfl := List.mem_singleton.mp hself
        exact ⟨.root _, _, _, _, rfl⟩
  | case4 => cases h

/-! ### Layout -/

/-- The location of a node is a position and the text that stands there. -/
def PointsAt (position : Position) (text : List Char) (e : Expr) : Prop :=
  ∃ tag, e.loc = some ⟨position, tag, some (String.ofList text)⟩

mutual

/-- The expression is laid out in a text that begins at a position: it points at all of it, at the
operator between its operands, or at the suffix behind what that is applied to. -/
inductive Laid : Position → List Char → Expr → Prop
  | whole {position : Position} {text : List Char} {e : Expr} (hoperator : e.operator? = none)
      (hsuffix : e.suffix? = none) (hpoints : e.PointsAt position text)
      (hparts : LaidInTurn position text e.parts) : Laid position text e
  | between {position : Position} {before gap gap' after : List Char} {e left right : Expr}
      {op : String} (hoperator : e.operator? = some (op, left, right))
      (hleft : Laid position before left) (hgap : AreBlank gap)
      (hpoints : e.PointsAt (position.advance (before ++ gap)) op.toList) (hgap' : AreBlank gap')
      (hright : Laid (position.advance (before ++ gap ++ op.toList ++ gap')) after right) :
      Laid position (before ++ gap ++ op.toList ++ gap' ++ after) e
  | behind {position : Position} {before gap shown signs : List Char} {e obj : Expr}
      {args : List Expr} (hsuffix : e.suffix? = some (obj, signs, args))
      (hobj : Laid position before obj) (hgap : AreBlank gap)
      (hpoints : e.PointsAt (position.advance (before ++ gap)) shown)
      (hbegins : BeginsWith signs shown)
      (hargs : LaidInTurn (position.advance (before ++ gap)) shown args) :
      Laid position (before ++ gap ++ shown) e

/-- The expressions are laid out in a text one after another, with anything between them. -/
inductive LaidInTurn : Position → List Char → List Expr → Prop
  | nil {position : Position} {text : List Char} : LaidInTurn position text []
  | cons {position : Position} {lead text rest : List Char} {e : Expr} {others : List Expr}
      (hfirst : Laid (position.advance lead) text e)
      (hothers : LaidInTurn (position.advance (lead ++ text)) rest others) :
      LaidInTurn position (lead ++ text ++ rest) (e :: others)

end

/-- The node points at all of its text, by the location and with the parts. -/
structure IsWhole (parts : List Expr) (loc : Location) (e : Expr) : Prop where
  operator : e.operator? = none
  suffix : e.suffix? = none
  parts : e.parts = parts
  loc : e.loc = some loc

/-- The expression is laid out in a part of a text that begins at a position. -/
def LaidWithin (position : Position) (text : List Char) (e : Expr) : Prop :=
  ∃ lead shown trail, text = lead ++ shown ++ trail ∧ e.Laid (position.advance lead) shown

variable {position : Position} {lead text : List Char} {es others : List Expr}

theorem IsWhole.laid {tag : Option String}
    (h : e.IsWhole es ⟨position, tag, some (String.ofList text)⟩)
    (hparts : LaidInTurn position text es) : e.Laid position text :=
  .whole h.operator h.suffix ⟨tag, h.loc⟩ (h.parts ▸ hparts)

theorem LaidWithin.widen (h : e.LaidWithin (position.advance lead) text) (trail : List Char) :
    e.LaidWithin position (lead ++ text ++ trail) := by
  obtain ⟨before, shown, after, rfl, hlaid⟩ := h
  rw [← Position.advance_append] at hlaid
  exact ⟨lead ++ before, shown, after ++ trail, by simp only [List.append_assoc], hlaid⟩

theorem LaidInTurn.behind (h : LaidInTurn (position.advance lead) text es) :
    LaidInTurn position (lead ++ text) es := by
  cases h with
  | nil => exact .nil
  | @cons _ gap first rest _ _ hfirst hothers =>
      rw [← Position.advance_append] at hfirst hothers
      rw [← List.append_assoc] at hothers
      simpa only [List.append_assoc] using LaidInTurn.cons hfirst hothers

theorem LaidInTurn.append (hleft : LaidInTurn position lead es)
    (hright : LaidInTurn (position.advance lead) text others) :
    LaidInTurn position (lead ++ text) (es ++ others) := by
  -- The layout of a list belongs to that of its members, so the induction is on the list.
  induction es generalizing position lead with
  | nil => exact hright.behind
  | cons e rest ih =>
      cases hleft with
      | cons hfirst hothers =>
          rw [Position.advance_append] at hright
          have hrest := ih hothers hright
          simpa only [List.append_assoc, List.cons_append] using LaidInTurn.cons hfirst hrest

theorem Laid.inTurn (h : e.Laid position text) : LaidInTurn position text [e] := by
  simpa using @LaidInTurn.cons position [] text [] e [] h .nil

theorem LaidInTurn.of_mem (h : LaidInTurn position text es) (hmem : e ∈ es) :
    e.LaidWithin position text := by
  induction es generalizing position text with
  | nil => cases hmem
  | cons first others ih =>
      cases h with
      | @cons _ lead shown rest _ _ hfirst hothers =>
          rcases List.mem_cons.mp hmem with rfl | hmem
          · exact ⟨lead, shown, rest, rfl, hfirst⟩
          · simpa using (ih hothers hmem).widen []

theorem Laid.of_mem_parts (h : e.Laid position text) (hpart : part ∈ e.parts) :
    part.LaidWithin position text := by
  cases h with
  | whole _ _ _ hparts => exact hparts.of_mem hpart
  | @between _ before gap gap' after _ left right op hoperator hleft _ _ _ hright =>
      rw [parts_of_operator hoperator] at hpart
      rcases List.mem_pair.mp hpart with rfl | rfl
      · exact ⟨[], before, gap ++ op.toList ++ gap' ++ after, by simp, hleft⟩
      · exact ⟨before ++ gap ++ op.toList ++ gap', after, [], by simp, hright⟩
  | @behind _ before gap shown _ _ _ _ hsuffix hobj _ _ _ hargs =>
      rw [parts_of_suffix hsuffix] at hpart
      rcases List.mem_cons.mp hpart with rfl | hpart
      · exact ⟨[], before, gap ++ shown, by simp, hobj⟩
      · simpa using (hargs.of_mem hpart).widen []

/-- Every node of an expression that is laid out in a text is laid out in a part of it. -/
theorem Laid.of_occurs (h : e.Laid position text) (hnode : e.Occurs node) :
    node.LaidWithin position text := by
  induction hnode generalizing position text with
  | root e => exact ⟨[], text, [], by simp, h⟩
  | part hpart _ ih =>
      obtain ⟨lead, shown, trail, rfl, hlaid⟩ := h.of_mem_parts hpart
      exact (ih hlaid).widen trail

/-- An expression with a suffix stands in two parts of the text, and points at the second. -/
theorem Laid.of_suffix (h : e.Laid position text) (hsuffix : e.suffix? = some (obj, signs, args)) :
    ∃ before gap shown, text = before ++ gap ++ shown ∧ shown ≠ [] ∧ obj.Laid position before ∧
      e.PointsAt (position.advance (before ++ gap)) shown := by
  cases h with
  | whole _ hnone => cases hnone.symm.trans hsuffix
  | between hoperator => cases (suffix?_of_operator hoperator).symm.trans hsuffix
  | behind hsuffix' hobj _ hpoints hbegins =>
      cases hsuffix'.symm.trans hsuffix
      exact ⟨_, _, _, rfl, hbegins.ne_nil, hobj, hpoints⟩

/-- One node points at an earlier position than the other. -/
def PointsBefore (e e' : Expr) : Prop :=
  ∃ loc ∈ e.loc, ∃ loc' ∈ e'.loc, loc.position.Before loc'.position

/-- A suffix in front of another one points at a position before it. -/
theorem Laid.pointsBefore (h : e.Laid position text) (hsuffix : e.suffix? = some (obj, signs, args))
    (hnode : node ∈ obj.suffixes) : node.PointsBefore e := by
  obtain ⟨before, gap, shown, rfl, -, hobj, tag, hloc⟩ := h.of_suffix hsuffix
  obtain ⟨hoccurs, _, _, _, hsuffix'⟩ := occurs_of_mem_suffixes hnode
  obtain ⟨lead, inner, trail, rfl, hinner⟩ := hobj.of_occurs hoccurs
  obtain ⟨before', gap', shown', rfl, hne, -, tag', hloc'⟩ := hinner.of_suffix hsuffix'
  -- All of the inner suffix and what follows it up to the outer one stands between the positions.
  have hfront : position.advance (lead ++ (before' ++ gap' ++ shown') ++ trail ++ gap) =
      ((position.advance lead).advance (before' ++ gap')).advance (shown' ++ trail ++ gap) := by
    simp only [← Position.advance_append, List.append_assoc]
  refine ⟨_, hloc', _, hloc, ?_⟩
  dsimp only
  rw [hfront]
  exact Position.before_advance _ fun hnil => hne (List.append_eq_nil_iff.mp
    (List.append_eq_nil_iff.mp hnil).1).1

theorem Laid.suffixes_pairwise (h : e.Laid position text) : e.suffixes.Pairwise PointsBefore := by
  fun_induction suffixes e generalizing text with
  | case1 _ _ _ ih | case2 _ _ _ ih | case3 _ _ _ _ ih =>
      obtain ⟨_, _, _, _, _, hobj, _⟩ := h.of_suffix rfl
      refine List.pairwise_append.mpr ⟨ih hobj, List.pairwise_singleton .., ?_⟩
      intro node hnode self hself
      obtain rfl := List.mem_singleton.mp hself
      exact h.pointsBefore rfl hnode
  | case4 => exact .nil

/-! ### Nodes in a source -/

/-- The expression is laid out right in front of a place, but for blanks. -/
def EndsAt (before : List Char) (e : Expr) : Prop :=
  ∃ lead text gap, before = lead ++ text ++ gap ∧ AreBlank gap ∧ e.Laid (.behind lead) text

/-- The expression is laid out right behind a place, but for blanks. -/
def BeginsAt (before after : List Char) (e : Expr) : Prop :=
  ∃ gap text trail, after = gap ++ text ++ trail ∧ AreBlank gap ∧
    e.Laid (.behind (before ++ gap)) text

/-- A node points at a part of a source, between the texts before and after it. -/
structure StandsIn (before shown after : List Char) (node : Expr) : Prop where
  points : node.PointsAt (.behind before) shown
  /-- An operator points at its token between its operands. -/
  operator : ∀ op left right, node.operator? = some (op, left, right) →
    shown = op.toList ∧ left.EndsAt before ∧ right.BeginsAt (before ++ shown) after
  /-- An index or a call points at its suffix, behind what it is applied to. -/
  suffix : ∀ obj signs args, node.suffix? = some (obj, signs, args) →
    BeginsWith signs shown ∧ obj.EndsAt before ∧ LaidInTurn (.behind before) shown args
  chain : node.suffixes.Pairwise PointsBefore

theorem Laid.standsIn (h : e.Laid (.behind lead) text) (trail : List Char) :
    ∃ before shown after, lead ++ text ++ trail = before ++ shown ++ after ∧
      e.StandsIn before shown after := by
  have hchain := h.suffixes_pairwise
  cases h with
  | whole hoperator hsuffix hpoints hparts =>
      refine ⟨lead, text, trail, rfl, hpoints, ?_, ?_, hchain⟩
      · intro op left right hnode
        cases hoperator.symm.trans hnode
      · intro obj signs args hnode
        cases hsuffix.symm.trans hnode
  | @between _ left gap gap' right _ _ _ op hoperator hleft hgap hpoints hgap' hright =>
      rw [Position.behind_advance] at hpoints hright
      refine ⟨lead ++ (left ++ gap), op.toList, gap' ++ right ++ trail, ?_, hpoints, ?_, ?_, hchain⟩
      · simp only [List.append_assoc]
      · intro op' left' right' hnode
        cases hoperator.symm.trans hnode
        refine ⟨rfl, ⟨lead, left, gap, ?_, hgap, hleft⟩, gap', right, trail, rfl, hgap', ?_⟩
        · rw [List.append_assoc]
        · simpa only [List.append_assoc] using hright
      · intro obj signs args hnode
        cases (suffix?_of_operator hoperator).symm.trans hnode
  | @behind _ inner gap shown _ _ _ _ hsuffix hobj hgap hpoints hbegins hargs =>
      rw [Position.behind_advance] at hpoints hargs
      refine ⟨lead ++ (inner ++ gap), shown, trail, ?_, hpoints, ?_, ?_, hchain⟩
      · simp only [List.append_assoc]
      · intro op left right hnode
        cases (suffix?_of_operator hnode).symm.trans hsuffix
      · intro obj signs args hnode
        cases hsuffix.symm.trans hnode
        refine ⟨hbegins, ⟨lead, inner, gap, ?_, hgap, hobj⟩, hargs⟩
        rw [List.append_assoc]

end Expr

end TemplateScript
