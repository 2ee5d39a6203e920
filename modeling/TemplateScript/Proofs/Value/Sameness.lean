import Mathlib.Data.List.Basic
import Mathlib.Logic.Function.Basic
import TemplateScript.Proofs.Value.Renumbering

/-!
# Sameness under other numbers

Two values that are compared under other numbers compare as they did, if different numbers stay
different. So a key finds the slot that it found, and reading and filling the slots of a table come
to the same.
-/

namespace TemplateScript

variable {f : Nat → Nat}

theorem Function.renumber_beq (hf : f.Injective) (g h : Function) :
    (g.renumber f == h.renumber f) = (g == h) := by
  rw [Bool.eq_iff_iff, beq_iff_eq, beq_iff_eq]
  cases g <;> cases h <;> simp [Function.renumber, hf.eq_iff]

mutual

theorem Value.agrees_renumber (hf : f.Injective) (comparing : Comparing) (v w : Value) :
    (v.renumber f).agrees comparing (w.renumber f) = v.agrees comparing w := by
  match v with
  | .nil | .str _ | .bytes _ | .date _ | .dateTime _ => cases w <;> rfl
  | .bool _ | .number _ => simp only [Value.renumber, Value.agrees, Value.asNumber?_renumber]
  | .list xs =>
      cases w with
      | list ys => exact agreesList_renumber hf .contents xs ys
      | _ => rfl
  | .tuple xs | .multi xs =>
      cases w with
      | tuple ys | multi ys => exact agreesList_renumber hf comparing xs ys
      | _ => rfl
  | .dict xs =>
      cases w with
      | dict ys | table _ ys =>
          simp only [Value.renumber, Value.agrees, agreesEntries_renumber hf xs,
            length_renumberEntries]
      | _ => rfl
  | .table id xs =>
      cases w with
      | table other ys =>
          rw [Value.renumber, Value.renumber, Value.agrees, Value.agrees, Bool.eq_iff_iff,
            beq_iff_eq, beq_iff_eq, hf.eq_iff]
      | dict ys =>
          simp only [Value.renumber, Value.agrees, agreesEntries_renumber hf xs,
            length_renumberEntries]
      | _ => rfl
  | .expression a =>
      cases w with
      | expression b =>
          rw [Value.renumber, Value.renumber, Value.agrees, Value.agrees,
            Expr.agrees_renumber hf a b, Expr.describe_renumber, Expr.describe_renumber]
      | _ => rfl
  | .function g =>
      cases w with
      | function h => exact Function.renumber_beq hf g h
      | _ => rfl
  | .set xs =>
      cases w with
      | set ys =>
          simp only [Value.renumber, Value.agrees, agreesMembers_renumber hf xs,
            length_renumberList]
      | _ => rfl
termination_by structural v

theorem agreesList_renumber (hf : f.Injective) (comparing : Comparing) (xs ys : List Value) :
    agreesList comparing (renumberList f xs) (renumberList f ys) =
      agreesList comparing xs ys := by
  match xs, ys with
  | [], [] | [], _ :: _ | _ :: _, [] => rfl
  | x :: xs, y :: ys =>
      simp only [renumberList, agreesList, Value.agrees_renumber hf comparing x,
        agreesList_renumber hf comparing xs]
termination_by structural xs

theorem agreesEntries_renumber (hf : f.Injective) (xs ys : List (Value × Value)) :
    agreesEntries (renumberEntries f xs) (renumberEntries f ys) = agreesEntries xs ys := by
  match xs with
  | [] => rfl
  | (k, v) :: xs =>
      have hkey : (fun entry : Value × Value => (k.renumber f).agrees .keys entry.1) ∘
          Prod.map (Value.renumber f) (Value.renumber f) = fun entry => k.agrees .keys entry.1 :=
        funext fun entry => Value.agrees_renumber hf .keys k entry.1
      have hfind : (renumberEntries f ys).find?
          (fun entry => (k.renumber f).agrees .keys entry.1) =
            (ys.find? fun entry => k.agrees .keys entry.1).map
              (Prod.map (Value.renumber f) (Value.renumber f)) := by
        rw [renumberEntries_eq_map, Slots.renumber, List.find?_map, hkey]
      rw [renumberEntries, agreesEntries, agreesEntries, hfind, agreesEntries_renumber hf xs]
      cases ys.find? fun entry => k.agrees .keys entry.1 with
      | none => rfl
      | some entry =>
          exact congrArg (· && agreesEntries xs ys)
            (Value.agrees_renumber hf .contents v entry.2)
termination_by structural xs

theorem agreesMembers_renumber (hf : f.Injective) (xs ys : List Value) :
    agreesMembers (renumberList f xs) (renumberList f ys) = agreesMembers xs ys := by
  match xs with
  | [] => rfl
  | x :: xs =>
      have hkey : (fun y => (x.renumber f).agrees .keys y) ∘ Value.renumber f =
          fun y => x.agrees .keys y :=
        funext fun y => Value.agrees_renumber hf .keys x y
      rw [renumberList, agreesMembers, agreesMembers, agreesMembers_renumber hf xs,
        renumberList_eq_map, List.any_map, hkey]
termination_by structural xs

theorem Expr.agrees_renumber (hf : f.Injective) (a b : Expr) :
    (a.renumber f).agrees (b.renumber f) = a.agrees b := by
  match a with
  | .literal v _ =>
      cases b with
      | literal w _ => exact Value.agrees_renumber hf .contents v w
      | _ => rfl
  | .variable _ _ | .bare _ => cases b <;> rfl
  | .index obj key _ =>
      cases b with
      | index obj' key' _ =>
          simp only [Expr.renumber, Expr.agrees, Expr.agrees_renumber hf obj,
            Expr.agrees_renumber hf key]
      | _ => rfl
  | .call fn args _ =>
      cases b with
      | call fn' args' _ =>
          simp only [Expr.renumber, Expr.agrees, Expr.agrees_renumber hf fn,
            agreesExprs_renumber hf args]
      | _ => rfl
  | .methodCall obj _ args _ =>
      cases b with
      | methodCall obj' _ args' _ =>
          simp only [Expr.renumber, Expr.agrees, Expr.agrees_renumber hf obj,
            agreesExprs_renumber hf args]
      | _ => rfl
  | .binary _ left right _ =>
      cases b with
      | binary _ left' right' _ =>
          simp only [Expr.renumber, Expr.agrees, Expr.agrees_renumber hf left,
            Expr.agrees_renumber hf right]
      | _ => rfl
  | .logical _ left right _ =>
      cases b with
      | logical _ left' right' _ =>
          simp only [Expr.renumber, Expr.agrees, Expr.agrees_renumber hf left,
            Expr.agrees_renumber hf right]
      | _ => rfl
  | .unary _ operand _ =>
      cases b with
      | unary _ operand' _ =>
          simp only [Expr.renumber, Expr.agrees, Expr.agrees_renumber hf operand]
      | _ => rfl
  | .paren inner _ =>
      cases b with
      | paren inner' _ => exact Expr.agrees_renumber hf inner inner'
      | _ => rfl
  | .tableConstructor fields _ =>
      cases b with
      | tableConstructor fields' _ => exact agreesFields_renumber hf fields fields'
      | _ => rfl
termination_by structural a

theorem agreesExprs_renumber (hf : f.Injective) (xs ys : List Expr) :
    agreesExprs (renumberExprs f xs) (renumberExprs f ys) = agreesExprs xs ys := by
  match xs, ys with
  | [], [] | [], _ :: _ | _ :: _, [] => rfl
  | x :: xs, y :: ys =>
      simp only [renumberExprs, agreesExprs, Expr.agrees_renumber hf x,
        agreesExprs_renumber hf xs]
termination_by structural xs

theorem agreesFields_renumber (hf : f.Injective) (xs ys : List (Option Expr × Expr)) :
    agreesFields (renumberFields f xs) (renumberFields f ys) = agreesFields xs ys := by
  match xs, ys with
  | [], [] | (none, _) :: _, [] | (some _, _) :: _, [] | [], (none, _) :: _
  | [], (some _, _) :: _ | (none, _) :: _, (some _, _) :: _
  | (some _, _) :: _, (none, _) :: _ => rfl
  | (none, v) :: xs, (none, w) :: ys =>
      simp only [renumberFields, agreesFields, Expr.agrees_renumber hf v,
        agreesFields_renumber hf xs]
  | (some k, v) :: xs, (some l, w) :: ys =>
      simp only [renumberFields, agreesFields, Expr.agrees_renumber hf k,
        Expr.agrees_renumber hf v, agreesFields_renumber hf xs]
termination_by structural xs

end

namespace Value

theorem sameKey_renumber (hf : f.Injective) (a b : Value) :
    (a.renumber f).sameKey (b.renumber f) = a.sameKey b :=
  agrees_renumber hf .keys a b

theorem scriptEq_renumber (hf : f.Injective) (a b : Value) :
    (a.renumber f).scriptEq (b.renumber f) = a.scriptEq b := by
  rw [scriptEq, scriptEq, hostEq, hostEq, kind_renumber, kind_renumber, asNumber?_renumber,
    asNumber?_renumber, agrees_renumber hf]

mutual

theorem unhashable?_renumber (f : Nat → Nat) (v : Value) :
    (v.renumber f).unhashable? = v.unhashable? := by
  match v with
  | .tuple items | .multi items =>
      rw [renumber, unhashable?, unhashable?, unhashableIn?_renumber f items]
  | .expression e => rw [renumber, unhashable?, unhashable?, Expr.isWritable_renumber]
  | .nil | .bool _ | .number _ | .str _ | .list _ | .dict _ | .table _ _ | .function _ | .bytes _
  | .date _ | .dateTime _ | .set _ => rfl

theorem unhashableIn?_renumber (f : Nat → Nat) (values : List Value) :
    unhashableIn? (renumberList f values) = unhashableIn? values := by
  match values with
  | [] => rfl
  | v :: rest =>
      rw [renumberList, unhashableIn?, unhashableIn?, unhashable?_renumber f v,
        unhashableIn?_renumber f rest]

end

theorem slotKey_ne_nil {key : Value} (h : key ≠ .nil) : key.slotKey ≠ .nil := by
  intro hslot
  cases key with
  | nil => exact h rfl
  | number n =>
      rw [slotKey] at hslot
      split at hslot <;> cases hslot
  | _ => cases hslot

theorem slotKey_renumber (f : Nat → Nat) (key : Value) :
    (key.renumber f).slotKey = key.slotKey.renumber f := by
  cases key with
  | number n =>
      rw [renumber, slotKey]
      cases n.toInt? <;> rfl
  | _ => rfl

theorem asKey_renumber (f : Nat → Nat) (key : Value) :
    (key.renumber f).asKey = key.asKey.map (renumber f) := by
  rw [asKey, asKey, unhashable?_renumber]
  cases key.unhashable? <;> rfl

end Value

/-! ### Slots -/

namespace Slots

theorem find?_renumber (hf : f.Injective) (slots : Slots) (key : Value) :
    find? (slots.renumber f) (key.renumber f) = (slots.find? key).map (Value.renumber f) := by
  have hkey : (fun slot : Value × Value => (key.renumber f).sameKey slot.1) ∘
      Prod.map (Value.renumber f) (Value.renumber f) = fun slot => key.sameKey slot.1 :=
    funext fun slot => Value.sameKey_renumber hf key slot.1
  rw [find?, find?, renumber, List.find?_map, hkey, Option.map_map, Option.map_map]
  rfl

theorem put_renumber (hf : f.Injective) (key value : Value) (slots : Slots) :
    put (key.renumber f) (value.renumber f) (slots.renumber f) =
      (slots.put key value).renumber f := by
  induction slots with
  | nil => rfl
  | cons slot rest ih =>
      rw [renumber, List.map_cons, put, put, Prod.map_fst, Value.sameKey_renumber hf]
      split
      · rfl
      · exact congrArg _ ih

theorem erase_renumber (hf : f.Injective) (key : Value) (slots : Slots) :
    erase (key.renumber f) (slots.renumber f) = (slots.erase key).renumber f := by
  induction slots with
  | nil => rfl
  | cons slot rest ih =>
      rw [renumber, List.map_cons, erase, erase, Prod.map_fst, Value.sameKey_renumber hf]
      split
      · rfl
      · exact congrArg _ ih

theorem read_renumber (hf : f.Injective) (slots : Slots) (key : Value) :
    read (slots.renumber f) (key.renumber f) =
      (slots.read key).map (Option.map (Value.renumber f)) := by
  rw [read, read, Value.slotKey_renumber, Value.asKey_renumber]
  cases key.slotKey.asKey with
  | error why => rfl
  | ok found => exact congrArg Except.ok (find?_renumber hf slots found)

/-! Assigning: to nil, nil, and anything else. -/

theorem assign_of_nilKey {slots : Slots} {key : Value} (h : key.slotKey = .nil) (value : Value) :
    slots.assign key value = .error .nilKey := by
  rw [assign.eq_def, h]

theorem assign_nil {slots : Slots} {key : Value} (h : key.slotKey ≠ .nil) :
    slots.assign key .nil =
      if slots.isEmpty then .ok slots else key.slotKey.asKey.map slots.erase := by
  rw [assign.eq_def]
  split
  · contradiction
  · split
    · rfl
    · cases key.slotKey.asKey <;> rfl
  · contradiction

theorem assign_of_ne_nil {slots : Slots} {key value : Value} (h : key.slotKey ≠ .nil)
    (hvalue : value ≠ .nil) :
    slots.assign key value = key.slotKey.asKey.map (slots.put · value) := by
  rw [assign.eq_def]
  split
  · contradiction
  · contradiction
  · cases key.slotKey.asKey <;> rfl

theorem assign_renumber (hf : f.Injective) (slots : Slots) (key value : Value) :
    assign (slots.renumber f) (key.renumber f) (value.renumber f) =
      (slots.assign key value).map (renumber f) := by
  have hslot : (key.renumber f).slotKey = key.slotKey.renumber f := key.slotKey_renumber f
  have hasKey : (key.renumber f).slotKey.asKey = key.slotKey.asKey.map (Value.renumber f) := by
    rw [hslot, Value.asKey_renumber]
  by_cases hkey : key.slotKey = .nil
  · rw [assign_of_nilKey hkey, assign_of_nilKey (by rw [hslot, hkey]; rfl)]
    rfl
  have hkey' : (key.renumber f).slotKey ≠ .nil := by rwa [hslot, ne_eq, Value.renumber_eq_nil]
  by_cases hvalue : value = .nil
  · rw [hvalue, assign_nil hkey, Value.renumber, assign_nil hkey', hasKey, List.isEmpty_map]
    split
    · rfl
    · cases key.slotKey.asKey with
      | error why => rfl
      | ok found => exact congrArg Except.ok (erase_renumber hf found slots)
  · have hvalue' : value.renumber f ≠ .nil := by rwa [ne_eq, Value.renumber_eq_nil]
    rw [assign_of_ne_nil hkey hvalue, assign_of_ne_nil hkey' hvalue', hasKey]
    cases key.slotKey.asKey with
    | error why => rfl
    | ok found => exact congrArg Except.ok (put_renumber hf found value slots)

end Slots

/-! ### The host's form -/

mutual

theorem Value.toHost_renumber (f : Nat → Nat) (v : Value) :
    (v.renumber f).toHost = v.toHost.renumber f := by
  match v with
  | .table _ slots =>
      have hslots := toHostSlots_renumber f slots
      simp only [Value.renumber, Value.toHost, isSequence_renumber hslots]
      split
      · rw [Value.renumber, sequenceOf_renumber hslots, renumberList_eq_map]
      · rw [Value.renumber, hslots, renumberEntries_eq_map]
  | .nil | .bool _ | .number _ | .str _ | .list _ | .tuple _ | .multi _ | .dict _ | .expression _
  | .function _ | .bytes _ | .date _ | .dateTime _ | .set _ => rfl

theorem toHostSlots_renumber (f : Nat → Nat) (slots : List (Value × Value)) :
    Value.toHostSlots (renumberEntries f slots) =
      (Value.toHostSlots slots).map (Prod.map (Value.renumber f) (Value.renumber f)) := by
  match slots with
  | [] => rfl
  | (key, value) :: rest =>
      rw [renumberEntries, Value.toHostSlots, Value.toHostSlots, Value.toHost_renumber f value,
        toHostSlots_renumber f rest]
      rfl

end

end TemplateScript
