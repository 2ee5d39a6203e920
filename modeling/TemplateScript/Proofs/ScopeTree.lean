import TemplateScript.Proofs.Evaluation.Augmentation

/-!
# Writes in a tree of scopes

Scopes share the scopes around them, so a write through one of them may be seen from many others.
Each write changes one binding of one scope. The scopes through which a look-up goes stay the same,
and a look-up after the write gives the new value exactly where it ends at the changed binding; all
others give what they gave before.

`NearestOwner` says where a look-up ends without counting scopes. It is what `owner?` finds, since
in a tree no way outward is longer than there are scopes.
-/

namespace TemplateScript

namespace Scopes

/-- Every scope is inside an earlier one or inside none. -/
def IsTree (scopes : Scopes) : Prop :=
  ∀ (number : Nat) (scope : Scope) (outer : Nat), scopes.all[number]? = some scope →
    scope.outer = some outer → outer < number

/-- The second scope is the nearest one from the first outward that binds the name. -/
inductive NearestOwner (scopes : Scopes) (name : String) : Nat → Nat → Prop
  | own {number : Nat} {scope : Scope} (hscope : scopes.all[number]? = some scope)
      (hbound : (scope.bindings.get? name).isSome) : NearestOwner scopes name number number
  | outer {number outer owner : Nat} {scope : Scope} (hscope : scopes.all[number]? = some scope)
      (hfree : scope.bindings.get? name = none) (houter : scope.outer = some outer)
      (h : NearestOwner scopes name outer owner) : NearestOwner scopes name number owner

variable {scopes : Scopes} {number owner target : Nat} {name other : String} {v : Value}

/-! ### Where a look-up ends -/

theorem bindingsOf_eq {scope : Scope} (h : scopes.all[number]? = some scope) :
    scopes.bindingsOf number = scope.bindings := by
  rw [bindingsOf, h]
  rfl

theorem not_nearestOwner_of_none (h : scopes.all[number]? = none) :
    ¬ scopes.NearestOwner name number owner := by
  intro howner
  cases howner with
  | own hscope => rw [h] at hscope; cases hscope
  | outer hscope => rw [h] at hscope; cases hscope

/-- A scope that binds the name is its own nearest owner, and otherwise the scope around it
decides. -/
theorem nearestOwner_iff {scope : Scope} (hscope : scopes.all[number]? = some scope) :
    scopes.NearestOwner name number owner ↔
      if (scope.bindings.get? name).isSome then owner = number
      else ∃ outer, scope.outer = some outer ∧ scopes.NearestOwner name outer owner := by
  constructor
  · intro howner
    cases howner with
    | own hsome hbound =>
        obtain rfl := Option.some.inj (hscope.symm.trans hsome)
        rw [if_pos hbound]
    | outer hsome hfree houter h =>
        obtain rfl := Option.some.inj (hscope.symm.trans hsome)
        rw [hfree]
        exact ⟨_, houter, h⟩
  · intro h
    split at h
    · next hbound =>
        subst h
        exact .own hscope hbound
    · next hfree =>
        obtain ⟨outer, houter, h⟩ := h
        exact .outer hscope (Option.not_isSome_iff_eq_none.mp hfree) houter h

/-- The bound on the way outward is never reached. -/
theorem find?_outwardUpTo_iff (htree : scopes.IsTree) {limit : Nat} (hlimit : number < limit) :
    ((scopes.outwardUpTo limit number).find? fun n =>
        ((scopes.bindingsOf n).get? name).isSome) = some owner ↔
      scopes.NearestOwner name number owner := by
  induction limit generalizing number with
  | zero => exact absurd hlimit (Nat.not_lt_zero number)
  | succ limit ih =>
      cases hscope : scopes.all[number]? with
      | none =>
          rw [outwardUpTo, hscope, List.find?_nil]
          exact iff_of_false (Option.some_ne_none owner).symm (not_nearestOwner_of_none hscope)
      | some scope =>
          rw [outwardUpTo, hscope, List.find?_cons, bindingsOf_eq hscope, nearestOwner_iff hscope]
          cases (scope.bindings.get? name).isSome with
          | true => exact ⟨fun h => (Option.some.inj h).symm, fun h => congrArg some h.symm⟩
          | false =>
              cases houter : scope.outer with
              | none => simp
              | some outer =>
                  have hearlier : outer < number := htree number scope outer hscope houter
                  simpa using ih (by omega)

theorem owner?_eq_some_iff (htree : scopes.IsTree) :
    scopes.owner? number name = some owner ↔ scopes.NearestOwner name number owner := by
  by_cases hnumber : number < scopes.all.length
  · exact find?_outwardUpTo_iff htree hnumber
  · have hscope : scopes.all[number]? = none := List.getElem?_eq_none (Nat.le_of_not_lt hnumber)
    have hnone : scopes.owner? number name = none := by
      rw [owner?, outward]
      cases scopes.all.length with
      | zero => rfl
      | succ limit => rw [outwardUpTo, hscope, List.find?_nil]
    rw [hnone]
    exact iff_of_false (Option.some_ne_none owner).symm (not_nearestOwner_of_none hscope)

theorem owner?_eq_none_iff (htree : scopes.IsTree) :
    scopes.owner? number name = none ↔ ∀ owner, ¬ scopes.NearestOwner name number owner := by
  simp only [Option.eq_none_iff_forall_ne_some, ne_eq, owner?_eq_some_iff htree]

/-! ### Scopes stay a tree -/

theorem isTree_empty : empty.IsTree :=
  fun _ _ _ hscope => nomatch hscope

theorem IsTree.add (htree : scopes.IsTree) {outer : Option Nat}
    (houter : ∀ n ∈ outer, n < scopes.all.length) : (scopes.add outer).IsTree := by
  intro number scope n hscope hn
  rw [Scopes.add] at hscope
  by_cases hlast : number < scopes.all.length
  · rw [List.getElem?_append_left hlast] at hscope
    exact htree number scope n hscope hn
  · rw [List.getElem?_append_right (Nat.le_of_not_lt hlast), List.getElem?_singleton] at hscope
    split at hscope
    · cases hscope
      have hbelow : n < scopes.all.length := houter n hn
      omega
    · cases hscope

theorem all_setLocal (scopes : Scopes) (target : Nat) (name : String) (v : Value) (number : Nat) :
    (scopes.setLocal target name v).all[number]? =
      (scopes.all[number]?).map fun scope =>
        if target = number then { scope with bindings := scope.bindings.set name v } else scope :=
  List.getElem?_modify ..

theorem outer_setLocal (scopes : Scopes) (target : Nat) (name : String) (v : Value)
    (number : Nat) :
    ((scopes.setLocal target name v).all[number]?).map Scope.outer =
      (scopes.all[number]?).map Scope.outer := by
  rw [all_setLocal, Option.map_map]
  congr 1
  funext scope
  simp only [Function.comp_apply]
  split <;> rfl

theorem IsTree.setLocal (htree : scopes.IsTree) (target : Nat) (name : String) (v : Value) :
    (scopes.setLocal target name v).IsTree := by
  intro number scope outer hscope houter
  have hsame := outer_setLocal scopes target name v number
  rw [hscope, Option.map_some, houter] at hsame
  obtain ⟨before, hbefore, houter'⟩ := Option.map_eq_some_iff.mp hsame.symm
  exact htree number before outer hbefore houter'

/-! ### One binding changes -/

theorem length_setLocal (scopes : Scopes) (target : Nat) (name : String) (v : Value) :
    (scopes.setLocal target name v).all.length = scopes.all.length :=
  List.length_modify ..

theorem all_setLocal_of_ne (hother : number ≠ target) :
    (scopes.setLocal target name v).all[number]? = scopes.all[number]? := by
  rw [all_setLocal]
  simp only [if_neg (Ne.symm hother), Option.map_id']

/-- A scope and what it is after a write, which binds no fewer names. -/
theorem exists_setLocal (target : Nat) (name : String) (v : Value) {scope : Scope}
    (hscope : scopes.all[number]? = some scope) :
    ∃ written : Scope, (scopes.setLocal target name v).all[number]? = some written ∧
      written.outer = scope.outer ∧ ∀ m, written.bindings.get? m =
        if number = target ∧ m = name then some v else scope.bindings.get? m := by
  have hset := all_setLocal scopes target name v number
  rw [hscope, Option.map_some] at hset
  refine ⟨_, hset, ?_, fun m => ?_⟩
  · split <;> rfl
  · by_cases htarget : target = number
    · simp only [htarget, if_true, true_and, Bindings.get?_set]
    · rw [if_neg htarget, if_neg (htarget ·.1.symm)]

theorem exists_of_setLocal {written : Scope}
    (hwritten : (scopes.setLocal target name v).all[number]? = some written) :
    ∃ scope : Scope, scopes.all[number]? = some scope ∧
      written.outer = scope.outer ∧ ∀ m, written.bindings.get? m =
        if number = target ∧ m = name then some v else scope.bindings.get? m := by
  cases hscope : scopes.all[number]? with
  | none =>
      rw [all_setLocal, hscope] at hwritten
      cases hwritten
  | some scope =>
      obtain ⟨written', hwritten', h⟩ := exists_setLocal target name v hscope
      obtain rfl := Option.some.inj (hwritten.symm.trans hwritten')
      exact ⟨scope, rfl, h⟩

/-- Bindings of other names and of other scopes are as before. -/
theorem get?_bindingsOf_setLocal (htarget : target < scopes.all.length) :
    ((scopes.setLocal target name v).bindingsOf number).get? other =
      if number = target ∧ other = name then some v else (scopes.bindingsOf number).get? other := by
  cases hscope : scopes.all[number]? with
  | none =>
      have hother : number ≠ target := by
        rintro rfl
        rw [List.getElem?_eq_getElem htarget] at hscope
        cases hscope
      rw [if_neg (hother ·.1), bindingsOf, bindingsOf, all_setLocal_of_ne hother]
  | some scope =>
      obtain ⟨written, hwritten, -, hget⟩ := exists_setLocal target name v hscope
      rw [bindingsOf_eq hwritten, bindingsOf_eq hscope, hget]

/-- What a write changes: one scope, and of it one binding. A look-up sees the new value where it
ends at that binding, and nothing else. -/
structure Rebinds (scopes : Scopes) (target : Nat) (name : String) (v : Value)
    (after : Scopes) : Prop where
  length_all : after.all.length = scopes.all.length
  outer_all : ∀ number : Nat,
    (after.all[number]?).map Scope.outer = (scopes.all[number]?).map Scope.outer
  isTree : after.IsTree
  all_of_ne : ∀ number : Nat, number ≠ target → after.all[number]? = scopes.all[number]?
  get?_bindingsOf : ∀ number other, (after.bindingsOf number).get? other =
    if number = target ∧ other = name then some v else (scopes.bindingsOf number).get? other
  get?_new : ∀ number, after.NearestOwner name number target → after.get? number name = some v
  get?_old : ∀ number other, ¬ (other = name ∧ after.NearestOwner name number target) →
    after.get? number other = scopes.get? number other

theorem NearestOwner.exists_scope (h : scopes.NearestOwner name number owner) :
    ∃ scope, scopes.all[owner]? = some scope ∧ (scope.bindings.get? name).isSome := by
  induction h with
  | own hscope hbound => exact ⟨_, hscope, hbound⟩
  | outer _ _ _ _ ih => exact ih

theorem get?_of_nearestOwner (htree : scopes.IsTree) (h : scopes.NearestOwner name number owner) :
    scopes.get? number name = (scopes.bindingsOf owner).get? name := by
  rw [get?, (owner?_eq_some_iff htree).mpr h, Option.bind_some]

theorem get?_of_free (htree : scopes.IsTree)
    (h : ∀ owner, ¬ scopes.NearestOwner name number owner) : scopes.get? number name = none := by
  rw [get?, (owner?_eq_none_iff htree).mpr h, Option.bind_none]

/-- A look-up that ends elsewhere ended there before. -/
theorem nearestOwner_of_setLocal
    (h : (scopes.setLocal target name v).NearestOwner other number owner) :
    (other = name ∧ owner = target) ∨ scopes.NearestOwner other number owner := by
  induction h with
  | @own number written hwritten hbound =>
      obtain ⟨scope, hscope, -, hget⟩ := exists_of_setLocal hwritten
      rw [hget] at hbound
      split at hbound
      · next hchanged => exact .inl ⟨hchanged.2, hchanged.1⟩
      · exact .inr (.own hscope hbound)
  | @outer number outer owner written hwritten hfree houter _ ih =>
      obtain ⟨scope, hscope, hsame, hget⟩ := exists_of_setLocal hwritten
      rw [hget] at hfree
      split at hfree
      · cases hfree
      · exact ih.imp_right (.outer hscope hfree (hsame ▸ houter))

/-- A look-up ends where it ended before, or at the changed binding. -/
theorem NearestOwner.setLocal (target : Nat) (name : String) (v : Value)
    (h : scopes.NearestOwner other number owner) :
    (other = name ∧ (scopes.setLocal target name v).NearestOwner other number target) ∨
      (scopes.setLocal target name v).NearestOwner other number owner := by
  induction h with
  | @own number scope hscope hbound =>
      obtain ⟨written, hwritten, -, hget⟩ := exists_setLocal target name v hscope
      refine .inr (.own hwritten ?_)
      rw [hget]
      split
      · rfl
      · exact hbound
  | @outer number outer owner scope hscope hfree houter _ ih =>
      obtain ⟨written, hwritten, hsame, hget⟩ := exists_setLocal target name v hscope
      by_cases hchanged : number = target ∧ other = name
      · obtain ⟨rfl, rfl⟩ := hchanged
        refine .inl ⟨rfl, .own hwritten ?_⟩
        rw [hget, if_pos ⟨rfl, rfl⟩]
        rfl
      · have hstep : ∀ {n}, (scopes.setLocal target name v).NearestOwner other outer n →
            (scopes.setLocal target name v).NearestOwner other number n :=
          .outer hwritten (by rw [hget, if_neg hchanged, hfree]) (hsame ▸ houter)
        exact ih.imp (And.imp_right hstep) hstep

theorem rebinds_setLocal (htree : scopes.IsTree) (htarget : target < scopes.all.length)
    (name : String) (v : Value) :
    scopes.Rebinds target name v (scopes.setLocal target name v) where
  length_all := length_setLocal ..
  outer_all := outer_setLocal scopes target name v
  isTree := htree.setLocal target name v
  all_of_ne _ := all_setLocal_of_ne
  get?_bindingsOf _ _ := get?_bindingsOf_setLocal htarget
  get?_new number h := by
    rw [get?_of_nearestOwner (htree.setLocal target name v) h, get?_bindingsOf_setLocal htarget,
      if_pos ⟨rfl, rfl⟩]
  get?_old number other hold := by
    have htree' := htree.setLocal target name v
    by_cases hbound : ∃ owner, scopes.NearestOwner other number owner
    · obtain ⟨owner, hbefore⟩ := hbound
      obtain ⟨rfl, hafter⟩ | hafter := hbefore.setLocal target name v
      · exact absurd ⟨rfl, hafter⟩ hold
      · rw [get?_of_nearestOwner htree hbefore, get?_of_nearestOwner htree' hafter,
          get?_bindingsOf_setLocal htarget, if_neg]
        rintro ⟨rfl, rfl⟩
        exact hold ⟨rfl, hafter⟩
    · have hfree := not_exists.mp hbound
      rw [get?_of_free htree hfree, get?_of_free htree']
      intro owner hafter
      obtain ⟨rfl, rfl⟩ | hbefore := nearestOwner_of_setLocal hafter
      · exact hold ⟨rfl, hafter⟩
      · exact hfree owner hbefore

/-! ### The ways to look up a name -/

/-- The look-ups of a name from a scope agree on whether it is bound, and where it is they give the
value that its nearest owner has. -/
structure LookupsAgree (scopes : Scopes) (number : Nat) (name : String) : Prop where
  has_iff : scopes.has number name = true ↔ ∃ owner, scopes.NearestOwner name number owner
  contains_str : scopes.contains number (.str name) = scopes.has number name
  of_nearestOwner : ∀ owner, scopes.NearestOwner name number owner →
    ∃ v, (scopes.bindingsOf owner).get? name = some v ∧ scopes.get number name = .ok v ∧
      ∀ default, scopes.getD number name default = v
  of_free : (∀ owner, ¬ scopes.NearestOwner name number owner) →
    scopes.get number name = .error (.missingKey (quoted name)) ∧
      ∀ default, scopes.getD number name default = default

theorem lookupsAgree (htree : scopes.IsTree) (number : Nat) (name : String) :
    scopes.LookupsAgree number name where
  has_iff := by simp only [has, Option.isSome_iff_exists, owner?_eq_some_iff htree]
  contains_str := rfl
  of_nearestOwner owner h := by
    obtain ⟨scope, hscope, hbound⟩ := h.exists_scope
    obtain ⟨v, hv⟩ := Option.isSome_iff_exists.mp (bindingsOf_eq hscope ▸ hbound)
    have hget : scopes.get? number name = some v := (get?_of_nearestOwner htree h).trans hv
    refine ⟨v, hv, ?_, fun default => ?_⟩
    · rw [get, hget]
    · rw [getD, hget, Option.getD_some]
  of_free h := by
    have hget : scopes.get? number name = none := get?_of_free htree h
    refine ⟨?_, fun default => ?_⟩
    · rw [get, hget]
    · rw [getD, hget, Option.getD_none]

theorem contains_of_not_str {key : Value} (hkey : ∀ name, key ≠ .str name) :
    scopes.contains number key = false := by
  cases key with
  | str name => exact absurd rfl (hkey name)
  | _ => rfl

/-- A write through a scope changes the binding that a look-up from there finds, or binds the name
in that scope where no scope binds it; a local write changes the binding of the scope itself. -/
theorem set_rebinds_nearest (htree : scopes.IsTree) (hnumber : number < scopes.all.length)
    (name : String) (v : Value) :
    (∃ target, (scopes.NearestOwner name number target ∨
        target = number ∧ ∀ owner, ¬ scopes.NearestOwner name number owner) ∧
      scopes.Rebinds target name v (scopes.set number name v)) ∧
    scopes.Rebinds number name v (scopes.setLocal number name v) ∧
    (∀ d other, scopes.LookupsAgree d other) ∧
    ∀ d key, (∀ other, key ≠ .str other) → scopes.contains d key = false := by
  refine ⟨?_, rebinds_setLocal htree hnumber name v, lookupsAgree htree,
    fun d key => contains_of_not_str⟩
  rw [set]
  cases howner : scopes.owner? number name with
  | none =>
      exact ⟨number, .inr ⟨rfl, (owner?_eq_none_iff htree).mp howner⟩,
        rebinds_setLocal htree hnumber name v⟩
  | some target =>
      have hnearest := (owner?_eq_some_iff htree).mp howner
      obtain ⟨scope, hscope, -⟩ := hnearest.exists_scope
      have htarget : target < scopes.all.length := (List.getElem?_eq_some_iff.mp hscope).1
      exact ⟨target, .inl hnearest, rebinds_setLocal htree htarget name v⟩

/-- Two scopes inside one that binds a name. The first of them shadows it for the scope inside
itself, and a write from there is not seen from the second. -/
theorem set_rebinds_nearest_shadowed :
    let opened := (((empty.add none).add (some 0)).add (some 0)).add (some 1)
    let scopes := (opened.setLocal 0 "x" .nil).setLocal 1 "x" (.bool true)
    let after := scopes.set 3 "x" (.bool false)
    scopes.IsTree ∧ 3 < scopes.all.length ∧ scopes.Rebinds 1 "x" (.bool false) after ∧
      after.get? 3 "x" = some (.bool false) ∧ after.get? 2 "x" = some .nil := by
  intro opened scopes after
  have hopened : opened.IsTree :=
    (((isTree_empty.add (by decide)).add (by decide)).add (by decide)).add (by decide)
  have htree : scopes.IsTree := (hopened.setLocal 0 "x" .nil).setLocal 1 "x" (.bool true)
  obtain ⟨⟨target, htarget, hset⟩, -⟩ :=
    set_rebinds_nearest htree (show 3 < scopes.all.length by decide) "x" (.bool false)
  have hnearest : scopes.NearestOwner "x" 3 1 := .outer rfl rfl rfl (.own rfl rfl)
  obtain rfl : target = 1 := by
    obtain htarget | ⟨-, hfree⟩ := htarget
    · exact Option.some.inj (((owner?_eq_some_iff htree).mpr htarget).symm.trans rfl)
    · exact absurd hnearest (hfree 1)
  exact ⟨htree, by decide, hset, rfl, rfl⟩

end Scopes

end TemplateScript
