import TemplateScript.Evaluation.Interpreter
import TemplateScript.Proofs.Library.Results
import TemplateScript.Proofs.Scope

/-!
# Inherited properties in an evaluation

What a scope binds, what an index finds and what is assigned to a table has each inherited property
that the values have from which it comes. The other operators give nil, booleans, numbers and texts.
-/

namespace TemplateScript

variable {p : Value → Prop}

/-! ### Scopes -/

namespace Bindings

/-- All values that are bound have a property. -/
def All (p : Value → Prop) (bindings : Bindings) : Prop :=
  ∀ binding ∈ bindings, p binding.2

variable {bindings : Bindings}

theorem All.get? {name : String} {v : Value} (h : bindings.All p)
    (hfound : bindings.get? name = some v) : p v := by
  induction bindings with
  | nil => cases hfound
  | cons binding rest ih =>
      obtain ⟨bound, first⟩ := binding
      obtain ⟨hfirst, hrest⟩ := List.forall_mem_cons.mp h
      rw [Bindings.get?, List.lookup_cons] at hfound
      split at hfound
      · exact Option.some.inj hfound ▸ hfirst
      · exact ih hrest hfound

theorem All.set (h : bindings.All p) (name : String) {v : Value} (hv : p v) :
    (bindings.set name v).All p := by
  induction bindings with
  | nil => exact List.forall_mem_singleton.mpr hv
  | cons binding rest ih =>
      obtain ⟨hbinding, hrest⟩ := List.forall_mem_cons.mp h
      rw [Bindings.set]
      split
      · exact List.forall_mem_cons.mpr ⟨hv, hrest⟩
      · exact List.forall_mem_cons.mpr ⟨hbinding, ih hrest⟩

theorem All.bindEntry (h : bindings.All p) {entry : Value × Value} (hentry : p entry.2) :
    (bindings.bindEntry entry).All p := by
  rw [Bindings.bindEntry]
  split
  · exact h.set _ hentry
  · exact h

end Bindings

namespace ScopeChain

/-- All values in a chain of scopes have a property. -/
def All (p : Value → Prop) (chain : ScopeChain) : Prop :=
  ∀ bindings ∈ chain, bindings.All p

theorem All.get? {chain : ScopeChain} {name : String} {v : Value} (h : chain.All p)
    (hfound : chain.get? name = some v) : p v := by
  obtain ⟨bindings, hmem, hbindings⟩ := List.exists_of_findSome?_eq_some hfound
  exact (h bindings hmem).get? hbindings

end ScopeChain

namespace Frame

/-- All global values of a frame have a property. -/
def All (p : Value → Prop) (frame : Frame) : Prop :=
  ∀ globals ∈ frame.globals, globals.All p

theorem All.getD_globals {frame : Frame} (h : frame.All p) : (frame.globals.getD []).All p := by
  cases hglobals : frame.globals with
  | none => exact List.forall_mem_nil _
  | some globals => exact h globals hglobals

end Frame

theorem all_bindAugmentation {v : Value} {entries : Slots} (hv : p v) (hentries : entries.All p) :
    (bindAugmentation v entries).All p := by
  have hfold (bindings : Bindings) (h : bindings.All p) :
      (entries.foldl Bindings.bindEntry bindings).All p := by
    induction entries generalizing bindings with
    | nil => exact h
    | cons entry rest ih =>
        obtain ⟨hentry, hrest⟩ := List.forall_mem_cons.mp hentries
        exact ih hrest _ (h.bindEntry hentry.2)
  exact hfold _ (List.forall_mem_singleton.mpr hv)

theorem all_createScope (hp : Value.Inherited p) {frame : Frame} {augmentation : Value}
    {bindings : Bindings} (h : p augmentation)
    (hscope : createScope frame augmentation = .ok bindings) : bindings.All p := by
  obtain ⟨globals, source, location⟩ := frame
  cases globals with
  | none => cases hscope
  | some globals =>
      cases augmentation with
      | nil =>
          cases hscope
          exact List.forall_mem_nil _
      | dict entries =>
          cases hscope
          exact all_bindAugmentation h (hp.dict.mp h)
      | table id entries =>
          cases hscope
          exact all_bindAugmentation h (hp.table h)
      | _ => cases hscope

/-! ### Operators -/

namespace Operators

section

variable (frame : Frame) (loc : Option Location)

theorem givesPlain_binary (op : BinaryOp) (left right : Value) :
    GivesPlain (binary frame op left right loc) := by
  cases op with
  | arithmetic op =>
      refine .bind fun a => .bind fun b => .bind fun n => ?_
      exact .ok rfl
  | concat =>
      refine .bind fun _ => .bind fun _ => .bind fun a => .bind fun b => ?_
      exact .ok rfl
  | equal | notEqual => exact .ok rfl
  | comparison op =>
      rw [binary.eq_def]
      dsimp only
      split
      · exact .ok rfl
      · exact .ok rfl
      · exact .error _
  | unknown spelling => exact .error _

theorem givesPlain_unary (op : UnaryOp) (v : Value) (subject : Subject) :
    GivesPlain (unary frame op v loc subject) := by
  cases op with
  | not => exact .ok rfl
  | neg =>
      refine .bind fun n => ?_
      exact .ok rfl
  | length =>
      rw [unary.eq_def]
      dsimp only
      split
      case h_7 => exact .error _
      all_goals exact .ok rfl
  | unknown spelling => exact .error _

end

variable (hp : Value.Inherited p)

include hp

theorem all_item {items : List Value} {key v : Value} (h : ∀ item ∈ items, p item)
    (hitem : item items key = .ok v) : p v := by
  cases key with
  | number n =>
      rw [item] at hitem
      cases hfloat : n.toFloat with
      | error why =>
          rw [hfloat] at hitem
          cases hitem
      | ok x =>
          rw [hfloat] at hitem
          cases hint : n.toInt? with
          | none =>
              rw [hint] at hitem
              cases hitem
              exact hp.nil
          | some i =>
              rw [hint] at hitem
              cases hitem
              split
              · cases hfound : items[(i - 1).toNat]? with
                | none => exact hp.nil
                | some found => exact h found (List.mem_of_getElem? hfound)
              · exact hp.nil
  | _ =>
      cases hitem
      exact hp.nil

theorem all_slot {slots : Slots} {key v : Value} (h : slots.All p)
    (hslot : slot slots key = .ok v) : p v := by
  rw [slot] at hslot
  cases hread : slots.read key with
  | error why =>
      rw [hread] at hslot
      cases hslot
  | ok found =>
      rw [hread] at hslot
      cases hslot
      cases found with
      | none => exact hp.nil
      | some v => exact h.read hread

theorem all_index {frame : Frame} {globals : Bindings} {obj key v : Value} {loc : Option Location}
    {subject : Subject} (hglobals : globals.All p) (hobj : p obj)
    (hindex : index frame globals obj key loc subject = .ok v) : p v := by
  cases obj with
  | table id slots => exact all_slot hp (hp.table hobj) hindex
  | str s =>
      rw [index] at hindex
      split at hindex
      · next id slots hfound => exact all_slot hp (hp.table (hglobals.get? hfound)) hindex
      · cases hindex
        exact hp.nil
  | dict entries =>
      rw [index, entry] at hindex
      split at hindex
      · cases hindex
        exact hp.nil
      · cases hindex
      · cases hindex
        cases hfound : Slots.find? entries key with
        | none => exact hp.nil
        | some found => exact (hp.dict.mp hobj).find? hfound
  | list items => exact all_item hp (hp.list.mp hobj) hindex
  | tuple items => exact all_item hp (hp.tuple hobj) hindex
  | multi items => exact all_item hp (hp.multi hobj) hindex
  | _ => cases hindex

end Operators

/-! ### Assignments -/

theorem all_assignPositions (hp : Value.Inherited p) {slots assigned : Slots} {position : Nat}
    {items : List Value} (h : slots.All p) (hitems : ∀ item ∈ items, p item)
    (hassign : assignPositions slots position items = .ok assigned) : assigned.All p := by
  induction items generalizing slots position with
  | nil =>
      cases hassign
      exact h
  | cons item rest ih =>
      obtain ⟨hitem, hrest⟩ := List.forall_mem_cons.mp hitems
      rw [assignPositions] at hassign
      cases hfirst : slots.assign (.ofInt position) item with
      | error why =>
          rw [hfirst] at hassign
          cases hassign
      | ok middle =>
          rw [hfirst] at hassign
          exact ih (h.assign hp (hp.number _) hitem hfirst) hrest hassign

end TemplateScript
