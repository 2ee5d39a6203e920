import Mathlib.Logic.Basic
import TemplateScript.Proofs.Value.Positions
import TemplateScript.Value.Conversion

/-!
# Values under other numbers

Tables are known by their numbers, and library functions by the number of the environment that they
belong to. `renumber` gives everything in a value another number. What the language shows of a value
does not depend on the numbers. `entities` lists what has a number, with its contents; a value in
which nothing has a number that changes stays as it is.
-/

namespace TemplateScript

/-- What has a number: a table, or a library function by its environment. -/
inductive Entity where
  | table (id : Nat) (slots : Slots)
  | member (m : Member) (home : Nat)

def Entity.number : Entity → Nat
  | .table id _ => id
  | .member _ home => home

def Function.renumber (f : Nat → Nat) : Function → Function
  | .member m home => .member m (f home)
  | .host key shown => .host key shown

def Function.entities : Function → List Entity
  | .member m home => [.member m home]
  | .host _ _ => []

mutual

def Value.renumber (f : Nat → Nat) : Value → Value
  | .nil => .nil
  | .bool b => .bool b
  | .number n => .number n
  | .str s => .str s
  | .list items => .list (renumberList f items)
  | .tuple items => .tuple (renumberList f items)
  | .multi items => .multi (renumberList f items)
  | .dict entries => .dict (renumberEntries f entries)
  | .table id slots => .table (f id) (renumberEntries f slots)
  | .expression e => .expression (e.renumber f)
  | .function g => .function (g.renumber f)
  | .bytes data => .bytes data
  | .date d => .date d
  | .dateTime t => .dateTime t
  | .set members => .set (renumberList f members)

def renumberList (f : Nat → Nat) : List Value → List Value
  | [] => []
  | v :: rest => v.renumber f :: renumberList f rest

def renumberEntries (f : Nat → Nat) : List (Value × Value) → List (Value × Value)
  | [] => []
  | (k, v) :: rest => (k.renumber f, v.renumber f) :: renumberEntries f rest

def Expr.renumber (f : Nat → Nat) : Expr → Expr
  | .literal value loc => .literal (value.renumber f) loc
  | .variable name loc => .variable name loc
  | .index obj key loc => .index (obj.renumber f) (key.renumber f) loc
  | .call fn args loc => .call (fn.renumber f) (renumberExprs f args) loc
  | .methodCall obj name args loc => .methodCall (obj.renumber f) name (renumberExprs f args) loc
  | .binary op left right loc => .binary op (left.renumber f) (right.renumber f) loc
  | .logical op left right loc => .logical op (left.renumber f) (right.renumber f) loc
  | .unary op operand loc => .unary op (operand.renumber f) loc
  | .paren inner loc => .paren (inner.renumber f) loc
  | .tableConstructor fields loc => .tableConstructor (renumberFields f fields) loc
  | .bare loc => .bare loc

def renumberExprs (f : Nat → Nat) : List Expr → List Expr
  | [] => []
  | e :: rest => e.renumber f :: renumberExprs f rest

def renumberFields (f : Nat → Nat) : List (Option Expr × Expr) → List (Option Expr × Expr)
  | [] => []
  | (none, value) :: rest => (none, value.renumber f) :: renumberFields f rest
  | (some key, value) :: rest => (some (key.renumber f), value.renumber f) :: renumberFields f rest

end

mutual

/-- What has a number in a value, with what is in the slots of tables. -/
def Value.entities : Value → List Entity
  | .list items | .tuple items | .multi items | .set items => entitiesOfAll items
  | .dict entries => entitiesOfEntries entries
  | .table id slots => .table id slots :: entitiesOfEntries slots
  | .expression e => e.entities
  | .function g => g.entities
  | .nil | .bool _ | .number _ | .str _ | .bytes _ | .date _ | .dateTime _ => []

def entitiesOfAll : List Value → List Entity
  | [] => []
  | v :: rest => v.entities ++ entitiesOfAll rest

def entitiesOfEntries : List (Value × Value) → List Entity
  | [] => []
  | (k, v) :: rest => k.entities ++ v.entities ++ entitiesOfEntries rest

def Expr.entities : Expr → List Entity
  | .literal value _ => value.entities
  | .variable _ _ | .bare _ => []
  | .index obj key _ => obj.entities ++ key.entities
  | .call fn args _ => fn.entities ++ entitiesOfExprs args
  | .methodCall obj _ args _ => obj.entities ++ entitiesOfExprs args
  | .binary _ left right _ | .logical _ left right _ => left.entities ++ right.entities
  | .unary _ operand _ => operand.entities
  | .paren inner _ => inner.entities
  | .tableConstructor fields _ => entitiesOfFields fields

def entitiesOfExprs : List Expr → List Entity
  | [] => []
  | e :: rest => e.entities ++ entitiesOfExprs rest

def entitiesOfFields : List (Option Expr × Expr) → List Entity
  | [] => []
  | (none, value) :: rest => value.entities ++ entitiesOfFields rest
  | (some key, value) :: rest => key.entities ++ value.entities ++ entitiesOfFields rest

end

/-- The slots under other numbers. -/
abbrev Slots.renumber (f : Nat → Nat) (slots : Slots) : Slots :=
  slots.map (Prod.map (Value.renumber f) (Value.renumber f))

theorem renumberList_eq_map (f : Nat → Nat) (values : List Value) :
    renumberList f values = values.map (Value.renumber f) := by
  induction values with
  | nil => rfl
  | cons v rest ih => rw [renumberList, ih, List.map_cons]

theorem renumberEntries_eq_map (f : Nat → Nat) (slots : Slots) :
    renumberEntries f slots = Slots.renumber f slots := by
  induction slots with
  | nil => rfl
  | cons slot rest ih => rw [renumberEntries, ih]; rfl

theorem length_renumberList (f : Nat → Nat) (values : List Value) :
    (renumberList f values).length = values.length := by
  rw [renumberList_eq_map, List.length_map]

theorem length_renumberEntries (f : Nat → Nat) (slots : Slots) :
    (renumberEntries f slots).length = slots.length := by
  rw [renumberEntries_eq_map, List.length_map]

theorem isEmpty_renumberFields (f : Nat → Nat) (fields : List (Option Expr × Expr)) :
    (renumberFields f fields).isEmpty = fields.isEmpty := by
  rcases fields with _ | ⟨⟨_ | key, value⟩, rest⟩ <;> rfl

/-! ### Values without numbers that change -/

mutual

theorem Value.renumber_of_fixed {f : Nat → Nat} (v : Value)
    (h : ∀ x ∈ v.entities, f x.number = x.number) : v.renumber f = v := by
  match v with
  | .nil | .bool _ | .number _ | .str _ | .bytes _ | .date _ | .dateTime _ => rfl
  | .list items | .tuple items | .multi items | .set items =>
      rw [Value.renumber, renumberList_of_fixed items h]
  | .dict entries => rw [Value.renumber, renumberEntries_of_fixed entries h]
  | .table id slots =>
      rw [Value.entities, List.forall_mem_cons] at h
      have hid : f id = id := h.1
      rw [Value.renumber, renumberEntries_of_fixed slots h.2, hid]
  | .expression e => rw [Value.renumber, Expr.renumber_of_fixed e h]
  | .function (.member m home) =>
      have hhome : f home = home := h (.member m home) (List.mem_singleton_self _)
      rw [Value.renumber, Function.renumber, hhome]
  | .function (.host key shown) => rfl

theorem renumberList_of_fixed {f : Nat → Nat} (values : List Value)
    (h : ∀ x ∈ entitiesOfAll values, f x.number = x.number) : renumberList f values = values := by
  match values with
  | [] => rfl
  | v :: rest =>
      rw [entitiesOfAll, List.forall_mem_append] at h
      rw [renumberList, Value.renumber_of_fixed v h.1, renumberList_of_fixed rest h.2]

theorem renumberEntries_of_fixed {f : Nat → Nat} (entries : List (Value × Value))
    (h : ∀ x ∈ entitiesOfEntries entries, f x.number = x.number) :
    renumberEntries f entries = entries := by
  match entries with
  | [] => rfl
  | (k, v) :: rest =>
      rw [entitiesOfEntries, List.forall_mem_append, List.forall_mem_append] at h
      rw [renumberEntries, Value.renumber_of_fixed k h.1.1, Value.renumber_of_fixed v h.1.2,
        renumberEntries_of_fixed rest h.2]

theorem Expr.renumber_of_fixed {f : Nat → Nat} (e : Expr)
    (h : ∀ x ∈ e.entities, f x.number = x.number) : e.renumber f = e := by
  match e with
  | .literal value loc => rw [Expr.renumber, Value.renumber_of_fixed value h]
  | .variable _ _ | .bare _ => rfl
  | .index left right _ | .binary _ left right _ | .logical _ left right _ =>
      rw [Expr.entities, List.forall_mem_append] at h
      rw [Expr.renumber, Expr.renumber_of_fixed left h.1, Expr.renumber_of_fixed right h.2]
  | .call e args _ | .methodCall e _ args _ =>
      rw [Expr.entities, List.forall_mem_append] at h
      rw [Expr.renumber, Expr.renumber_of_fixed e h.1, renumberExprs_of_fixed args h.2]
  | .unary _ inner _ | .paren inner _ => rw [Expr.renumber, Expr.renumber_of_fixed inner h]
  | .tableConstructor fields _ => rw [Expr.renumber, renumberFields_of_fixed fields h]

theorem renumberExprs_of_fixed {f : Nat → Nat} (es : List Expr)
    (h : ∀ x ∈ entitiesOfExprs es, f x.number = x.number) : renumberExprs f es = es := by
  match es with
  | [] => rfl
  | e :: rest =>
      rw [entitiesOfExprs, List.forall_mem_append] at h
      rw [renumberExprs, Expr.renumber_of_fixed e h.1, renumberExprs_of_fixed rest h.2]

theorem renumberFields_of_fixed {f : Nat → Nat} (fields : List (Option Expr × Expr))
    (h : ∀ x ∈ entitiesOfFields fields, f x.number = x.number) :
    renumberFields f fields = fields := by
  match fields with
  | [] => rfl
  | (none, value) :: rest =>
      rw [entitiesOfFields, List.forall_mem_append] at h
      rw [renumberFields, Expr.renumber_of_fixed value h.1, renumberFields_of_fixed rest h.2]
  | (some key, value) :: rest =>
      rw [entitiesOfFields, List.forall_mem_append, List.forall_mem_append] at h
      rw [renumberFields, Expr.renumber_of_fixed key h.1.1, Expr.renumber_of_fixed value h.1.2,
        renumberFields_of_fixed rest h.2]

end

/-! ### What a value shows -/

section

variable (f : Nat → Nat)

@[simp] theorem Function.name_renumber (g : Function) : (g.renumber f).name = g.name := by
  cases g <;> rfl

@[simp] theorem Expr.kindName_renumber (e : Expr) : (e.renumber f).kindName = e.kindName := by
  cases e <;> rfl

@[simp] theorem Expr.loc_renumber (e : Expr) : (e.renumber f).loc = e.loc := by
  cases e <;> rfl

end

namespace Value

variable (f : Nat → Nat) (v : Value)

@[simp] theorem typeName_renumber : (v.renumber f).typeName = v.typeName := by
  cases v <;> rfl

@[simp] theorem hostTypeName_renumber : (v.renumber f).hostTypeName = v.hostTypeName := by
  cases v with
  | expression e => exact e.kindName_renumber f
  | function g => rcases g with ⟨_ | _, _⟩ | _ <;> rfl
  | number n => rfl
  | _ => rfl

@[simp] theorem isTruthy_renumber : (v.renumber f).isTruthy = v.isTruthy := by
  cases v <;> rfl

@[simp] theorem toNumber?_renumber : (v.renumber f).toNumber? = v.toNumber? := by
  cases v <;> rfl

@[simp] theorem asNumber?_renumber : (v.renumber f).asNumber? = v.asNumber? := by
  cases v <;> rfl

@[simp] theorem isIndex_renumber (index : Int) :
    (v.renumber f).isIndex index = v.isIndex index := by
  cases v <;> rfl

@[simp] theorem kind_renumber : (v.renumber f).kind = v.kind := by
  cases v with
  | expression e => exact congrArg Kind.expression (e.kindName_renumber f)
  | _ => rfl

theorem renumber_eq_nil : v.renumber f = .nil ↔ v = .nil := by
  cases v <;> simp [renumber]

@[simp] theorem single_renumber : (v.renumber f).single = v.single.renumber f := by
  cases v with
  | multi items => cases items <;> rfl
  | _ => rfl

end Value

/-! ### Slots of integers -/

section

variable {α β : Type} {slots : List (Value × α)} {slots' : List (Value × β)} {f : Nat → Nat}
  {g : α → β}

theorem border_renumber (h : slots' = slots.map (Prod.map (Value.renumber f) g)) :
    border slots' = border slots :=
  border_map (Value.isIndex_renumber f) h

theorem sequenceOf_renumber (h : slots' = slots.map (Prod.map (Value.renumber f) g)) :
    sequenceOf slots' = (sequenceOf slots).map g :=
  sequenceOf_map (Value.isIndex_renumber f) h

theorem isSequence_renumber (h : slots' = slots.map (Prod.map (Value.renumber f) g)) :
    isSequence slots' = isSequence slots :=
  isSequence_map (Value.isIndex_renumber f) h

end

/-! ### Texts -/

theorem keyText_renumber (f : Nat → Nat) (key : Value) (nestedText : List Char) :
    keyText (key.renumber f) nestedText = keyText key nestedText := by
  cases key <;> rfl

mutual

theorem Value.text_renumber (f : Nat → Nat) (form : TextForm) (v : Value) :
    (v.renumber f).text form = v.text form := by
  match v with
  | .nil | .bool _ | .number _ | .str _ | .bytes _ | .date _ | .dateTime _ => rfl
  | .list items | .tuple items | .multi items | .set items =>
      simp only [Value.renumber, Value.text, textList_renumber f _ items]
  | .dict entries =>
      have hentries := nestedSlots_renumber f entries
      simp only [Value.renumber, Value.text, descriptionEntries_renumber f entries, hentries,
        List.map_map]
      congr 3
      funext slot
      exact congrArg (slotText · _) (keyText_renumber f slot.1 slot.2.key)
  | .table id slots =>
      rw [Value.renumber, Value.text, Value.text, slotsText, slotsText,
        isSequence_renumber (nestedSlots_renumber f slots),
        sequenceOf_renumber (nestedSlots_renumber f slots), nestedSlots_renumber f slots,
        List.map_id, List.map_map]
      congr 3
      funext slot
      exact congrArg (slotText · _) (keyText_renumber f slot.1 slot.2.key)
  | .expression e => exact Expr.describe_renumber f e
  | .function g => simp only [Value.renumber, Value.text, Function.name_renumber]

theorem textList_renumber (f : Nat → Nat) (form : TextForm) (values : List Value) :
    textList form (renumberList f values) = textList form values := by
  match values with
  | [] => rfl
  | v :: rest =>
      rw [renumberList, textList, textList, Value.text_renumber f form v,
        textList_renumber f form rest]

theorem nestedSlots_renumber (f : Nat → Nat) (slots : List (Value × Value)) :
    nestedSlots (renumberEntries f slots) =
      (nestedSlots slots).map (Prod.map (Value.renumber f) id) := by
  match slots with
  | [] => rfl
  | (k, v) :: rest =>
      rw [renumberEntries, nestedSlots, nestedSlots, Value.text_renumber f .nested k,
        Value.text_renumber f .nested v, nestedSlots_renumber f rest]
      rfl

theorem descriptionEntries_renumber (f : Nat → Nat) (entries : List (Value × Value)) :
    descriptionEntries (renumberEntries f entries) = descriptionEntries entries := by
  match entries with
  | [] => rfl
  | (k, v) :: rest =>
      rw [renumberEntries, descriptionEntries, descriptionEntries,
        Value.text_renumber f .description k, Value.text_renumber f .description v,
        descriptionEntries_renumber f rest]

theorem Expr.describe_renumber (f : Nat → Nat) (e : Expr) :
    (e.renumber f).describe = e.describe := by
  -- the texts of the parts, put back into the text of the whole
  match e with
  | .literal value _ =>
      exact congrArg (fun part => "Literal".toList ++ parenthesized [part])
        (Value.text_renumber f .description value)
  | .variable _ _ | .bare _ => rfl
  | .index obj key _ =>
      exact congrArg₂ (fun first second => "Index".toList ++ parenthesized [first, second])
        (Expr.describe_renumber f obj) (Expr.describe_renumber f key)
  | .call fn args _ =>
      exact congrArg₂ (fun first parts =>
        "Call".toList ++ parenthesized [first, '[' :: commaSeparated parts ++ [']']])
        (Expr.describe_renumber f fn) (describeList_renumber f args)
  | .methodCall obj name args _ =>
      exact congrArg₂ (fun first parts => "MethodCall".toList ++
        parenthesized [first, (quoted name).toList, '[' :: commaSeparated parts ++ [']']])
        (Expr.describe_renumber f obj) (describeList_renumber f args)
  | .binary op left right _ =>
      exact congrArg₂ (fun first second => "BinOp".toList ++
        parenthesized [(quoted op.spelling).toList, first, second])
        (Expr.describe_renumber f left) (Expr.describe_renumber f right)
  | .logical op left right _ =>
      exact congrArg₂ (fun first second => "LogicalOp".toList ++
        parenthesized [(quoted op.spelling).toList, first, second])
        (Expr.describe_renumber f left) (Expr.describe_renumber f right)
  | .unary op operand _ =>
      exact congrArg (fun part => "UnaryOp".toList ++
        parenthesized [(quoted op.spelling).toList, part]) (Expr.describe_renumber f operand)
  | .paren inner _ =>
      exact congrArg (fun part => "Paren".toList ++ parenthesized [part])
        (Expr.describe_renumber f inner)
  | .tableConstructor fields _ =>
      exact congrArg (fun parts => "TableConstructor".toList ++
        parenthesized ['[' :: commaSeparated parts ++ [']']]) (describeFields_renumber f fields)

theorem describeList_renumber (f : Nat → Nat) (es : List Expr) :
    describeList (renumberExprs f es) = describeList es := by
  match es with
  | [] => rfl
  | e :: rest =>
      rw [renumberExprs, describeList, describeList, Expr.describe_renumber f e,
        describeList_renumber f rest]

theorem describeFields_renumber (f : Nat → Nat) (fields : List (Option Expr × Expr)) :
    describeFields (renumberFields f fields) = describeFields fields := by
  match fields with
  | [] => rfl
  | (none, value) :: rest =>
      rw [renumberFields, describeFields, describeFields, Expr.describe_renumber f value,
        describeFields_renumber f rest]
  | (some key, value) :: rest =>
      rw [renumberFields, describeFields, describeFields, Expr.describe_renumber f key,
        Expr.describe_renumber f value, describeFields_renumber f rest]

end

mutual

theorem Value.isWritable_renumber (f : Nat → Nat) (v : Value) :
    (v.renumber f).isWritable = v.isWritable := by
  match v with
  | .nil | .bool _ | .number _ | .str _ | .bytes _ | .date _ | .dateTime _ | .function _ => rfl
  | .list items | .tuple items | .multi items | .set items =>
      rw [Value.renumber, Value.isWritable, Value.isWritable, writableList_renumber f items]
  | .dict entries =>
      rw [Value.renumber, Value.isWritable, Value.isWritable, writableEntries_renumber f entries]
  | .table id slots =>
      rw [Value.renumber, Value.isWritable, Value.isWritable, writableEntries_renumber f slots,
        writableContents_renumber f slots,
        isSequence_renumber (g := Value.renumber f) (renumberEntries_eq_map f slots)]
  | .expression e => exact Expr.isWritable_renumber f e

theorem writableList_renumber (f : Nat → Nat) (values : List Value) :
    writableList (renumberList f values) = writableList values := by
  match values with
  | [] => rfl
  | v :: rest =>
      rw [renumberList, writableList, writableList, Value.isWritable_renumber f v,
        writableList_renumber f rest]

theorem writableContents_renumber (f : Nat → Nat) (slots : List (Value × Value)) :
    writableContents (renumberEntries f slots) = writableContents slots := by
  match slots with
  | [] => rfl
  | (k, v) :: rest =>
      rw [renumberEntries, writableContents, writableContents, Value.isWritable_renumber f v,
        writableContents_renumber f rest]

theorem writableEntries_renumber (f : Nat → Nat) (entries : List (Value × Value)) :
    writableEntries (renumberEntries f entries) = writableEntries entries := by
  match entries with
  | [] => rfl
  | (k, v) :: rest =>
      rw [renumberEntries, writableEntries, writableEntries, Value.isWritable_renumber f k,
        Value.isWritable_renumber f v, writableEntries_renumber f rest]

theorem Expr.isWritable_renumber (f : Nat → Nat) (e : Expr) :
    (e.renumber f).isWritable = e.isWritable := by
  match e with
  | .literal value _ =>
      simp only [Expr.renumber, Expr.isWritable, Value.isWritable_renumber f value]
  | .variable _ _ | .bare _ => rfl
  | .index left right _ | .binary _ left right _ | .logical _ left right _ =>
      simp only [Expr.renumber, Expr.isWritable, Expr.isWritable_renumber f left,
        Expr.isWritable_renumber f right]
  | .call e args _ | .methodCall e _ args _ =>
      simp only [Expr.renumber, Expr.isWritable, Expr.isWritable_renumber f e,
        writableExprs_renumber f args]
  | .unary _ inner _ | .paren inner _ =>
      simp only [Expr.renumber, Expr.isWritable, Expr.isWritable_renumber f inner]
  | .tableConstructor fields _ =>
      simp only [Expr.renumber, Expr.isWritable, writableFields_renumber f fields]

theorem writableExprs_renumber (f : Nat → Nat) (es : List Expr) :
    writableExprs (renumberExprs f es) = writableExprs es := by
  match es with
  | [] => rfl
  | e :: rest =>
      rw [renumberExprs, writableExprs, writableExprs, Expr.isWritable_renumber f e,
        writableExprs_renumber f rest]

theorem writableFields_renumber (f : Nat → Nat) (fields : List (Option Expr × Expr)) :
    writableFields (renumberFields f fields) = writableFields fields := by
  match fields with
  | [] => rfl
  | (none, value) :: rest =>
      rw [renumberFields, writableFields, writableFields, Expr.isWritable_renumber f value,
        writableFields_renumber f rest]
  | (some key, value) :: rest =>
      rw [renumberFields, writableFields, writableFields, Expr.isWritable_renumber f key,
        Expr.isWritable_renumber f value, writableFields_renumber f rest]

end

@[simp] theorem Value.display?_renumber (f : Nat → Nat) (v : Value) :
    (v.renumber f).display? = v.display? := by
  have htext : (v.renumber f).displayText = v.displayText := by
    cases v with
    | expression e => exact congrArg ("expression: ".toList ++ ·) (e.describe_renumber f)
    | _ => exact Value.text_renumber f .plain _
  rw [Value.display?, Value.display?, v.isWritable_renumber f, htext]

end TemplateScript
