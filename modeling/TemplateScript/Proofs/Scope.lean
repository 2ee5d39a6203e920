import Mathlib.Data.List.Basic
import TemplateScript.Evaluation.Frame

/-!
# The scope of an evaluation

Scopes are shared: a look-up goes on in the outer scope, and an assignment may change a binding
there. An evaluation opens a scope of its own in the global one and binds its augmentation in it
alone. So all scopes that were there before stay as they are, and a look-up from the new scope goes
through its bindings and then through the global ones.
-/

namespace TemplateScript

/-- Binds a text among the keys of an augmentation. -/
def Bindings.bindEntry (bindings : Bindings) (entry : Value × Value) : Bindings :=
  match entry.1 with
  | .str name => bindings.set name entry.2
  | _ => bindings

theorem bindAugmentation_eq (augmentation : Value) (entries : Slots) :
    bindAugmentation augmentation entries =
      entries.foldl Bindings.bindEntry [(augmentationName, augmentation)] :=
  rfl

namespace Scopes

/-- Binds a text among the keys of an augmentation, in one scope. -/
def bindEntry (number : Nat) (scopes : Scopes) (entry : Value × Value) : Scopes :=
  match entry.1 with
  | .str name => scopes.setLocal number name entry.2
  | _ => scopes

/-- A new scope inside another one, in which an augmentation is bound. -/
def openScope (scopes : Scopes) (outer : Nat) (augmentation : Value) : Scopes :=
  let number := scopes.all.length
  let opened := scopes.add (some outer)
  match augmentation with
  | .dict entries | .table _ entries =>
    entries.foldl (bindEntry number) (opened.setLocal number augmentationName augmentation)
  | _ => opened

variable {scopes : Scopes} {outer : Option Nat} {bindings : Bindings}

/-- A binding in the last scope changes no other. -/
theorem setLocal_last (name : String) (v : Value) :
    setLocal ⟨scopes.all ++ [⟨outer, bindings⟩]⟩ scopes.all.length name v =
      ⟨scopes.all ++ [⟨outer, bindings.set name v⟩]⟩ := by
  rw [setLocal]
  congr 1
  induction scopes.all with
  | nil => rfl
  | cons first rest ih => exact congrArg (first :: ·) ih

theorem bindEntry_last (entry : Value × Value) :
    bindEntry scopes.all.length ⟨scopes.all ++ [⟨outer, bindings⟩]⟩ entry =
      ⟨scopes.all ++ [⟨outer, bindings.bindEntry entry⟩]⟩ := by
  obtain ⟨key, v⟩ := entry
  cases key with
  | str name => exact setLocal_last name v
  | _ => rfl

theorem foldl_bindEntry_last (entries : List (Value × Value)) :
    entries.foldl (bindEntry scopes.all.length) ⟨scopes.all ++ [⟨outer, bindings⟩]⟩ =
      ⟨scopes.all ++ [⟨outer, entries.foldl Bindings.bindEntry bindings⟩]⟩ := by
  induction entries generalizing bindings with
  | nil => rfl
  | cons entry rest ih => rw [List.foldl_cons, List.foldl_cons, bindEntry_last, ih]

theorem foldl_augmentation_last (number : Nat) (augmentation : Value)
    (entries : List (Value × Value)) :
    entries.foldl (bindEntry scopes.all.length)
        ((scopes.add (some number)).setLocal scopes.all.length augmentationName augmentation) =
      ⟨scopes.all ++ [⟨some number, bindAugmentation augmentation entries⟩]⟩ := by
  rw [add, setLocal_last, foldl_bindEntry_last, bindAugmentation_eq]
  rfl

/-- The new scope is behind all others, which stay as they are, and holds the bindings of the
evaluation. -/
theorem openScope_all {frame : Frame} {augmentation : Value}
    (h : createScope frame augmentation = .ok bindings) (number : Nat) :
    (scopes.openScope number augmentation).all = scopes.all ++ [⟨some number, bindings⟩] := by
  obtain ⟨globals, source, location⟩ := frame
  cases globals with
  | none => cases h
  | some globals =>
      cases augmentation with
      | nil =>
          cases h
          rfl
      | dict entries =>
          cases h
          exact congrArg all (foldl_augmentation_last number (.dict entries) entries)
      | table id entries =>
          cases h
          exact congrArg all (foldl_augmentation_last number (.table id entries) entries)
      | _ => cases h

/-- A look-up from a scope that is directly inside a scope without an outer one goes through the
bindings of the two. -/
theorem get?_of_last {number : Nat} {globals : Bindings} {opened : Scopes}
    (hglobals : scopes.all[number]? = some ⟨none, globals⟩)
    (hopened : opened.all = scopes.all ++ [⟨some number, bindings⟩]) (name : String) :
    opened.get? scopes.all.length name = ScopeChain.get? [bindings, globals] name := by
  have hlast : opened.all[scopes.all.length]? = some ⟨some number, bindings⟩ := by
    rw [hopened, List.getElem?_concat_length]
  have hlt : number < scopes.all.length := (List.getElem?_eq_some_iff.mp hglobals).1
  have houter : opened.all[number]? = some ⟨none, globals⟩ := by
    rw [hopened, List.getElem?_append_left hlt, hglobals]
  have houtward : opened.outward scopes.all.length = [scopes.all.length, number] := by
    obtain ⟨limit, hlimit⟩ : ∃ limit, opened.all.length = limit + 2 := by
      refine ⟨scopes.all.length - 1, ?_⟩
      rw [hopened, List.length_append, List.length_singleton]
      omega
    rw [outward, hlimit, outwardUpTo, hlast]
    simp only [outwardUpTo, houter]
  have hown : opened.bindingsOf scopes.all.length = bindings := by rw [bindingsOf, hlast]; rfl
  have hglobal : opened.bindingsOf number = globals := by rw [bindingsOf, houter]; rfl
  rw [get?, owner?, houtward]
  simp only [List.find?_cons, List.find?_nil, hown, hglobal, ScopeChain.get?, List.findSome?_cons,
    List.findSome?_nil]
  cases hfirst : bindings.get? name with
  | some v => simp [hown, hfirst]
  | none =>
      cases hsecond : globals.get? name with
      | some v => simp [hglobal, hsecond]
      | none => simp

end Scopes

end TemplateScript
