import TemplateScript.Proofs.Expr.Description
import TemplateScript.Proofs.Value.Keys

/-!
# Expressions as keys

A table finds an expression by the name of its kind and the descriptions of its fields, and then by
equality. Equal expressions hash alike if their literals are spelled alike, and expressions that are
read from texts only then: `1` and `1.0` are equal and hash differently. Equal expressions that hash
alike address one slot of every table and of every mapping.
-/

namespace TemplateScript

/-! ### Hashes -/

namespace Expr

/-- The descriptions of the fields of an expression, whose location is not one of them. -/
def fieldTexts : Expr → List (List Char)
  | .literal value _ => [value.text .description]
  | .variable name _ => [(quoted name).toList]
  | .index obj key _ => [obj.describe, key.describe]
  | .call fn args _ => [fn.describe, '[' :: commaSeparated (describeList args) ++ [']']]
  | .methodCall obj name args _ =>
    [obj.describe, (quoted name).toList, '[' :: commaSeparated (describeList args) ++ [']']]
  | .binary op left right _ => [(quoted op.spelling).toList, left.describe, right.describe]
  | .logical op left right _ => [(quoted op.spelling).toList, left.describe, right.describe]
  | .unary op operand _ => [(quoted op.spelling).toList, operand.describe]
  | .paren inner _ => [inner.describe]
  | .tableConstructor fields _ => ['[' :: commaSeparated (describeFields fields) ++ [']']]
  | .bare _ => []

theorem describe_eq (e : Expr) :
    e.describe = e.kindName.toList ++ parenthesized e.fieldTexts := by
  cases e with
  | bare loc => exact show "Node()".toList = "Node".toList ++ ['(', ')'] by decide
  | _ => rfl

/-- What the hash of an expression is made of: the name of its kind and the descriptions of its
fields. There is none where an integer is too long to be written. -/
def hashParts? (e : Expr) : Option (String × List (List Char)) :=
  if e.isWritable then some (e.kindName, e.fieldTexts) else none

/-- The descriptions of the literals as far as they can be written. -/
def spellings (e : Expr) : List (Option String) :=
  e.literals.map (Value.textIn? .description)

end Expr

/-! ### Equal expressions are equal to the same expressions -/

/-- Beside a NaN only those with its mark are the same. -/
theorem Number.nan_isSame_iff {negative : Bool} {mark : Nat} {n : Number} :
    (Number.float (.nan negative mark)).isSame n = true ↔
      mark ≠ 0 ∧ ∃ sign, n = .float (.nan sign mark) := by
  unfold isSame
  rw [not_beq_of_isNan (.inl rfl), Bool.false_or]
  rcases n with k | (_ | _ | ⟨sign, mark'⟩)
  · simp
  · simp
  · simp
  · simp only [Bool.and_eq_true, beq_iff_eq, bne_iff_ne, Number.float.injEq, Binary64.nan.injEq]
    constructor
    · rintro ⟨rfl, hmark⟩
      exact ⟨hmark, sign, rfl, rfl⟩
    · rintro ⟨hmark, -, -, rfl⟩
      exact ⟨rfl, hmark⟩

/-- Two numbers that are the same are so to all others as well. -/
theorem Number.isSame_swap {m n : Number} (h : m.isSame n = true) :
    n.isSame m = true ∧ ∀ k, m.isSame k = n.isSame k := by
  cases hm : m.exactValue? with
  | some v =>
      have hn : n.exactValue? = some v := (isSame_iff hm).mp h
      refine ⟨(isSame_iff hn).mpr hm, fun k => ?_⟩
      rw [Bool.eq_iff_iff, isSame_iff hm, isSame_iff hn]
  | none =>
      obtain ⟨negative, mark, rfl⟩ : ∃ negative mark, m = .float (.nan negative mark) := by
        rw [exactValue?_eq_none] at hm
        rcases m with k | (_ | _ | ⟨negative, mark⟩)
        · cases hm
        · cases hm
        · cases hm
        · exact ⟨negative, mark, rfl⟩
      obtain ⟨hmark, sign, rfl⟩ := nan_isSame_iff.mp h
      refine ⟨nan_isSame_iff.mpr ⟨hmark, negative, rfl⟩, fun k => ?_⟩
      rw [Bool.eq_iff_iff, nan_isSame_iff, nan_isSame_iff]

/-- The second value agrees with the first, and both agree with the same values. -/
def Value.IsTwin (v w : Value) : Prop :=
  w.agrees .contents v = true ∧ ∀ u, v.agrees .contents u = w.agrees .contents u

/-- The second expression agrees with the first, and both agree with the same expressions. -/
def Expr.IsTwin (a b : Expr) : Prop :=
  b.agrees a = true ∧ ∀ x, a.agrees x = b.agrees x

theorem Value.isTwin_of_agrees {v w : Value} (hv : v.isPlain)
    (h : v.agrees .contents w = true) : v.IsTwin w := by
  have hnumber {m : Number} (hm : v.asNumber? = some m) : v.IsTwin w := by
    rw [agrees_of_asNumber? hm, Option.any_eq_true] at h
    obtain ⟨n, hn, hsame⟩ := h
    obtain ⟨hback, hothers⟩ := Number.isSame_swap hsame
    constructor
    · rw [agrees_of_asNumber? hn, hm]
      exact hback
    · intro u
      rw [agrees_of_asNumber? hm, agrees_of_asNumber? hn, funext hothers]
  cases v with
  | nil =>
      obtain rfl := eq_of_nil_agrees h
      exact ⟨rfl, fun _ => rfl⟩
  | str text =>
      obtain rfl := eq_of_str_agrees h
      exact ⟨h, fun _ => rfl⟩
  | bool b => exact hnumber rfl
  | number n => exact hnumber rfl
  | _ => cases hv

mutual

theorem Expr.isTwin_of_agrees (a b : Expr) (ha : a.IsPlain) (h : a.agrees b = true) :
    a.IsTwin b := by
  match a with
  | .literal v _ =>
      cases Expr.fieldsAgree_of_agrees h with
      | literal hvalue =>
          have hv : v.isPlain := ha v (List.mem_singleton_self v)
          obtain ⟨hback, hothers⟩ := Value.isTwin_of_agrees hv hvalue
          refine ⟨hback, fun x => ?_⟩
          cases x with
          | literal u _ => exact hothers u
          | _ => rfl
  | .variable name _ =>
      cases Expr.fieldsAgree_of_agrees h with
      | «variable» =>
          refine ⟨h, fun x => ?_⟩
          cases x <;> rfl
  | .index obj key _ =>
      cases Expr.fieldsAgree_of_agrees h with
      | index hobj hkey =>
          obtain ⟨hleft, hright⟩ := List.forall_mem_append.mp ha
          obtain ⟨hback, hothers⟩ := Expr.isTwin_of_agrees obj _ hleft hobj
          obtain ⟨hback', hothers'⟩ := Expr.isTwin_of_agrees key _ hright hkey
          refine ⟨Bool.and_eq_true_iff.mpr ⟨hback, hback'⟩, fun x => ?_⟩
          cases x with
          | index o k _ => simp only [Expr.agrees, hothers, hothers']
          | _ => rfl
  | .call fn args _ =>
      cases Expr.fieldsAgree_of_agrees h with
      | call hfn hargs =>
          obtain ⟨hleft, hright⟩ := List.forall_mem_append.mp ha
          obtain ⟨hback, hothers⟩ := Expr.isTwin_of_agrees fn _ hleft hfn
          obtain ⟨hback', hothers'⟩ := areTwins_of_agrees args _ hright hargs
          refine ⟨Bool.and_eq_true_iff.mpr ⟨hback, hback'⟩, fun x => ?_⟩
          cases x with
          | call g ys _ => simp only [Expr.agrees, hothers, hothers']
          | _ => rfl
  | .methodCall obj name args _ =>
      cases Expr.fieldsAgree_of_agrees h with
      | methodCall hobj hargs =>
          obtain ⟨hleft, hright⟩ := List.forall_mem_append.mp ha
          obtain ⟨hback, hothers⟩ := Expr.isTwin_of_agrees obj _ hleft hobj
          obtain ⟨hback', hothers'⟩ := areTwins_of_agrees args _ hright hargs
          refine ⟨?_, fun x => ?_⟩
          · simp only [Expr.agrees, hback, hback', beq_self_eq_true, Bool.and_self]
          · cases x with
            | methodCall o m ys _ => simp only [Expr.agrees, hothers, hothers']
            | _ => rfl
  | .binary op left right _ =>
      cases Expr.fieldsAgree_of_agrees h with
      | binary hop hl hr =>
          obtain ⟨hleft, hright⟩ := List.forall_mem_append.mp ha
          obtain ⟨hback, hothers⟩ := Expr.isTwin_of_agrees left _ hleft hl
          obtain ⟨hback', hothers'⟩ := Expr.isTwin_of_agrees right _ hright hr
          refine ⟨?_, fun x => ?_⟩
          · simp only [Expr.agrees, hback, hback', hop, beq_self_eq_true, Bool.and_self]
          · cases x with
            | binary o l r _ => simp only [Expr.agrees, hothers, hothers', hop]
            | _ => rfl
  | .logical op left right _ =>
      cases Expr.fieldsAgree_of_agrees h with
      | logical hop hl hr =>
          obtain ⟨hleft, hright⟩ := List.forall_mem_append.mp ha
          obtain ⟨hback, hothers⟩ := Expr.isTwin_of_agrees left _ hleft hl
          obtain ⟨hback', hothers'⟩ := Expr.isTwin_of_agrees right _ hright hr
          refine ⟨?_, fun x => ?_⟩
          · simp only [Expr.agrees, hback, hback', hop, beq_self_eq_true, Bool.and_self]
          · cases x with
            | logical o l r _ => simp only [Expr.agrees, hothers, hothers', hop]
            | _ => rfl
  | .unary op operand _ =>
      cases Expr.fieldsAgree_of_agrees h with
      | unary hop hoperand =>
          obtain ⟨hback, hothers⟩ := Expr.isTwin_of_agrees operand _ ha hoperand
          refine ⟨?_, fun x => ?_⟩
          · simp only [Expr.agrees, hback, hop, beq_self_eq_true, Bool.and_self]
          · cases x with
            | unary o e _ => simp only [Expr.agrees, hothers, hop]
            | _ => rfl
  | .paren inner _ =>
      cases Expr.fieldsAgree_of_agrees h with
      | paren hinner =>
          obtain ⟨hback, hothers⟩ := Expr.isTwin_of_agrees inner _ ha hinner
          refine ⟨hback, fun x => ?_⟩
          cases x with
          | paren e _ => exact hothers e
          | _ => rfl
  | .tableConstructor fields _ =>
      cases Expr.fieldsAgree_of_agrees h with
      | tableConstructor hfields =>
          obtain ⟨hback, hothers⟩ := fieldsAreTwins_of_agrees fields _ ha hfields
          refine ⟨hback, fun x => ?_⟩
          cases x with
          | tableConstructor ys _ => exact hothers ys
          | _ => rfl
  | .bare _ =>
      cases Expr.fieldsAgree_of_agrees h with
      | bare =>
          refine ⟨rfl, fun x => ?_⟩
          cases x <;> rfl
termination_by structural a

theorem areTwins_of_agrees (xs ys : List Expr) (hxs : ∀ v ∈ literalsOfAll xs, v.isPlain)
    (h : agreesExprs xs ys = true) :
    agreesExprs ys xs = true ∧ ∀ zs, agreesExprs xs zs = agreesExprs ys zs := by
  match xs, ys with
  | [], [] => exact ⟨rfl, fun _ => rfl⟩
  | [], _ :: _ | _ :: _, [] => cases h
  | x :: xs, y :: ys =>
      obtain ⟨hfirst, hrest⟩ := Bool.and_eq_true_iff.mp h
      obtain ⟨hx, hxs⟩ := List.forall_mem_append.mp hxs
      obtain ⟨hback, hothers⟩ := Expr.isTwin_of_agrees x y hx hfirst
      obtain ⟨hback', hothers'⟩ := areTwins_of_agrees xs ys hxs hrest
      refine ⟨Bool.and_eq_true_iff.mpr ⟨hback, hback'⟩, fun zs => ?_⟩
      cases zs with
      | nil => rfl
      | cons z zs => simp only [agreesExprs, hothers, hothers']
termination_by structural xs

theorem fieldsAreTwins_of_agrees (xs ys : List (Option Expr × Expr))
    (hxs : ∀ v ∈ literalsOfFields xs, v.isPlain) (h : agreesFields xs ys = true) :
    agreesFields ys xs = true ∧ ∀ zs, agreesFields xs zs = agreesFields ys zs := by
  match xs, ys with
  | [], [] => exact ⟨rfl, fun _ => rfl⟩
  | [], (none, _) :: _ | [], (some _, _) :: _ | (none, _) :: _, [] | (some _, _) :: _, []
  | (none, _) :: _, (some _, _) :: _ | (some _, _) :: _, (none, _) :: _ => cases h
  | (none, v) :: xs, (none, w) :: ys =>
      obtain ⟨hfirst, hrest⟩ := Bool.and_eq_true_iff.mp h
      obtain ⟨hv, hxs⟩ := List.forall_mem_append.mp hxs
      obtain ⟨hback, hothers⟩ := Expr.isTwin_of_agrees v w hv hfirst
      obtain ⟨hback', hothers'⟩ := fieldsAreTwins_of_agrees xs ys hxs hrest
      refine ⟨Bool.and_eq_true_iff.mpr ⟨hback, hback'⟩, fun zs => ?_⟩
      match zs with
      | [] | (some _, _) :: _ => rfl
      | (none, u) :: zs => simp only [agreesFields, hothers, hothers']
  | (some k, v) :: xs, (some l, w) :: ys =>
      obtain ⟨hfirst, hrest⟩ := Bool.and_eq_true_iff.mp h
      obtain ⟨hkey, hvalue⟩ := Bool.and_eq_true_iff.mp hfirst
      obtain ⟨hboth, hxs⟩ := List.forall_mem_append.mp hxs
      obtain ⟨hk, hv⟩ := List.forall_mem_append.mp hboth
      obtain ⟨hkback, hkothers⟩ := Expr.isTwin_of_agrees k l hk hkey
      obtain ⟨hback, hothers⟩ := Expr.isTwin_of_agrees v w hv hvalue
      obtain ⟨hback', hothers'⟩ := fieldsAreTwins_of_agrees xs ys hxs hrest
      refine ⟨?_, fun zs => ?_⟩
      · simp only [agreesFields, hkback, hback, hback', Bool.and_self]
      · match zs with
        | [] | (none, _) :: _ => rfl
        | (some m, u) :: zs => simp only [agreesFields, hkothers, hothers, hothers']
termination_by structural xs

end

/-! ### Integers too long to be written -/

mutual

theorem Expr.isWritable_eq (e : Expr) : e.isWritable = e.literals.all Value.isWritable := by
  match e with
  | .literal value _ => simp [Expr.isWritable, Expr.literals]
  | .variable _ _ | .bare _ => rfl
  | .index left right _ | .binary _ left right _ | .logical _ left right _ =>
      simp only [Expr.isWritable, Expr.literals, List.all_append, Expr.isWritable_eq left,
        Expr.isWritable_eq right]
  | .call e args _ | .methodCall e _ args _ =>
      simp only [Expr.isWritable, Expr.literals, List.all_append, Expr.isWritable_eq e,
        writableExprs_eq args]
  | .unary _ inner _ | .paren inner _ =>
      simp only [Expr.isWritable, Expr.literals, Expr.isWritable_eq inner]
  | .tableConstructor fields _ =>
      simp only [Expr.isWritable, Expr.literals, writableFields_eq fields]

theorem writableExprs_eq (es : List Expr) :
    writableExprs es = (literalsOfAll es).all Value.isWritable := by
  match es with
  | [] => rfl
  | e :: rest =>
      rw [writableExprs, literalsOfAll, List.all_append, Expr.isWritable_eq e,
        writableExprs_eq rest]

theorem writableFields_eq (fields : List (Option Expr × Expr)) :
    writableFields fields = (literalsOfFields fields).all Value.isWritable := by
  match fields with
  | [] => rfl
  | (none, value) :: rest =>
      rw [writableFields, literalsOfFields, List.all_append, Expr.isWritable_eq value,
        writableFields_eq rest]
  | (some key, value) :: rest =>
      rw [writableFields, literalsOfFields, List.all_append, List.all_append,
        Expr.isWritable_eq key, Expr.isWritable_eq value, writableFields_eq rest]

end

namespace Expr

variable {a b : Expr}

theorem isWritable_eq_all_spellings (e : Expr) :
    e.isWritable = e.spellings.all Option.isSome := by
  rw [isWritable_eq, spellings, List.all_map]
  congr 1
  funext v
  simp only [Function.comp_apply, Value.textIn?]
  cases v.isWritable <;> rfl

theorem spellings_eq (h : a.isWritable = true) :
    a.spellings = a.literalTexts.map fun text => some (String.ofList text) := by
  rw [isWritable_eq, List.all_eq_true] at h
  rw [spellings, literalTexts, List.map_map]
  apply List.map_congr_left
  intro v hv
  rw [Value.textIn?, if_pos (h v hv)]
  rfl

theorem spellings_eq_iff (ha : a.isWritable = true) (hb : b.isWritable = true) :
    a.spellings = b.spellings ↔ a.literalTexts = b.literalTexts := by
  rw [spellings_eq ha, spellings_eq hb]
  apply List.map_inj_right
  intro x y htexts
  exact String.ofList_injective (Option.some.inj htexts)

/-! ### Fields -/

theorem kindName_of_agrees (h : a.agrees b = true) : a.kindName = b.kindName := by
  cases fieldsAgree_of_agrees h <;> rfl

/-- The texts of the literals settle the descriptions of all fields. -/
theorem fieldTexts_of_agrees (h : a.agrees b = true) (htexts : a.literalTexts = b.literalTexts) :
    a.fieldTexts = b.fieldTexts := by
  simp only [literalTexts] at htexts
  cases fieldsAgree_of_agrees h with
  | literal hvalue => exact htexts
  | «variable» => rfl
  | index hobj hkey =>
      simp only [literals, List.map_append] at htexts
      obtain ⟨hleft, hright⟩ := (settles_describe hobj).of_append_eq (settles_describe hkey) htexts
      rw [fieldTexts, fieldTexts, hleft, hright]
  | call hfn hargs =>
      simp only [literals, List.map_append] at htexts
      obtain ⟨hleft, hright⟩ :=
        (settles_describe hfn).of_append_eq (settles_describeList hargs) htexts
      rw [fieldTexts, fieldTexts, hleft, hright]
  | methodCall hobj hargs =>
      simp only [literals, List.map_append] at htexts
      obtain ⟨hleft, hright⟩ :=
        (settles_describe hobj).of_append_eq (settles_describeList hargs) htexts
      rw [fieldTexts, fieldTexts, hleft, hright]
  | binary hop hl hr | logical hop hl hr =>
      simp only [literals, List.map_append] at htexts
      obtain ⟨hleft, hright⟩ := (settles_describe hl).of_append_eq (settles_describe hr) htexts
      rw [fieldTexts, fieldTexts, hleft, hright, hop]
  | unary hop hoperand =>
      rw [fieldTexts, fieldTexts, (settles_describe hoperand).of_eq htexts, hop]
  | paren hinner => rw [fieldTexts, fieldTexts, (settles_describe hinner).of_eq htexts]
  | tableConstructor hfields =>
      rw [fieldTexts, fieldTexts, (settles_describeFields hfields).of_eq htexts]
  | bare => rfl

/-- Equal expressions with literals that are spelled alike hash alike, or have no hash both. -/
theorem hashParts?_of_spellings (h : a.agrees b = true) (hspellings : a.spellings = b.spellings) :
    a.hashParts? = b.hashParts? := by
  have hwritable : a.isWritable = b.isWritable := by
    rw [isWritable_eq_all_spellings, isWritable_eq_all_spellings, hspellings]
  rw [hashParts?, hashParts?, ← hwritable]
  split
  · next ha =>
      have hb : b.isWritable = true := hwritable ▸ ha
      rw [kindName_of_agrees h, fieldTexts_of_agrees h ((spellings_eq_iff ha hb).mp hspellings)]
  · rfl

theorem isWritable_of_hashParts? (ha : a.isWritable = true) (hparts : a.hashParts? = b.hashParts?) :
    b.isWritable = true := by
  rw [hashParts?, hashParts?, if_pos ha] at hparts
  split at hparts
  · assumption
  · cases hparts

theorem sameHash_of_hashParts? (ha : a.isWritable = true) (hparts : a.hashParts? = b.hashParts?) :
    a.sameHash b = true := by
  rw [hashParts?, hashParts?, if_pos ha] at hparts
  split at hparts
  · obtain ⟨hkind, hfields⟩ := Prod.mk.inj (Option.some.inj hparts)
    rw [sameHash, beq_iff_eq, describe_eq, describe_eq, hkind, hfields]
  · cases hparts

/-- Equal expressions that hash alike spell their literals alike, if they are read from texts. -/
theorem spellings_of_hashParts? (hplain : a.IsPlain) (h : a.agrees b = true)
    (ha : a.isWritable = true) (hparts : a.hashParts? = b.hashParts?) :
    a.spellings = b.spellings := by
  have hb : b.isWritable = true := isWritable_of_hashParts? ha hparts
  have hdescribe : a.describe = b.describe := beq_iff_eq.mp (sameHash_of_hashParts? ha hparts)
  exact (spellings_eq_iff ha hb).mpr ((settles_literalTexts hplain h).of_eq hdescribe)

end Expr

/-! ### Slots -/

namespace Slots

variable {slots : Slots} {key other value : Value}

theorem find?_of_sameKey (h : ∀ k, key.sameKey k = other.sameKey k) :
    slots.find? key = slots.find? other := by
  rw [find?, find?, funext fun slot : Value × Value => h slot.1]

theorem find?_put_self (h : key.sameKey key = true) :
    (slots.put key value).find? key = some value := by
  induction slots with
  | nil => rw [put, find?_cons, if_pos h]
  | cons slot rest ih =>
      rw [put]
      split
      · next hfills => rw [find?_cons, if_pos hfills]
      · next hother => rw [find?_cons, if_neg hother, ih]

end Slots

namespace Expr

variable {a b : Expr}

theorem sameKey_of_sameHash (hplain : a.IsPlain) (h : a.agrees b = true)
    (hhash : a.sameHash b = true) (key : Value) :
    (Value.expression a).sameKey key = (Value.expression b).sameKey key := by
  obtain ⟨-, hothers⟩ := isTwin_of_agrees a b hplain h
  cases key with
  | expression x =>
      rw [Value.sameKey, Value.sameKey, Value.agrees, Value.agrees, hothers,
        beq_iff_eq.mp hhash]
  | _ => rfl

/-- An expression is a key if it can be written. -/
theorem asKey_of_isWritable (ha : a.isWritable = true) :
    (Value.expression a).slotKey.asKey = .ok (.expression a) := by
  have hkey : (Value.expression a).unhashable? = none := by rw [Value.unhashable?, if_pos ha]
  have hslot : (Value.expression a).slotKey = .expression a := rfl
  rw [hslot, Value.asKey, hkey]

/-- Equal expressions that hash alike address one slot. -/
theorem read_of_sameHash (hplain : a.IsPlain) (ha : a.isWritable = true)
    (hb : b.isWritable = true) (h : a.agrees b = true) (hhash : a.sameHash b = true)
    (slots : Slots) :
    slots.read (.expression a) = slots.read (.expression b) ∧
      ∀ value, value ≠ .nil → ∃ filled, slots.assign (.expression a) value = .ok filled ∧
        filled.read (.expression a) = .ok (some value) ∧
        filled.read (.expression b) = .ok (some value) := by
  have hsame := sameKey_of_sameHash hplain h hhash
  have hfind (slots : Slots) : slots.read (.expression a) = .ok (slots.find? (.expression a)) := by
    rw [Slots.read, asKey_of_isWritable ha]
    rfl
  have hread (slots : Slots) : slots.read (.expression a) = slots.read (.expression b) := by
    rw [hfind, Slots.read, asKey_of_isWritable hb, Slots.find?_of_sameKey hsame]
    rfl
  have hself : (Value.expression a).sameKey (.expression a) = true := by
    obtain ⟨hback, hothers⟩ := isTwin_of_agrees a b hplain h
    rw [Value.sameKey, Value.agrees, hothers a, hback, beq_self_eq_true, Bool.or_true]
    rfl
  refine ⟨hread slots, fun value hvalue => ?_⟩
  have hkey : (Value.expression a).slotKey ≠ .nil := by
    intro heq
    cases heq
  have hassign : slots.assign (.expression a) value = .ok (slots.put (.expression a) value) := by
    rw [Slots.assign_of_ne_nil hkey hvalue, asKey_of_isWritable ha]
    rfl
  have hfound : (slots.put (.expression a) value).read (.expression a) = .ok (some value) := by
    rw [hfind, Slots.find?_put_self hself]
  exact ⟨_, hassign, hfound, (hread _).symm.trans hfound⟩

/-- Equal expressions hash alike if their literals are spelled alike. Of those that are read from
texts, no others do; and where they hash alike, they address the same slot of every table and of
every mapping. -/
theorem hashParts?_of_agrees (h : a.agrees b = true) :
    (a.spellings = b.spellings →
      a.hashParts? = b.hashParts? ∧ (a.isWritable = true → a.sameHash b = true)) ∧
    ∀ source, parseExpr source = .ok a → a.isWritable = true →
      (a.hashParts? = b.hashParts? ↔ a.spellings = b.spellings) ∧
      (a.hashParts? = b.hashParts? → ∀ slots : Slots,
        slots.read (.expression a) = slots.read (.expression b) ∧
          ∀ value, value ≠ .nil → ∃ filled, slots.assign (.expression a) value = .ok filled ∧
            filled.read (.expression a) = .ok (some value) ∧
            filled.read (.expression b) = .ok (some value)) := by
  constructor
  · intro hspellings
    have hparts := hashParts?_of_spellings h hspellings
    exact ⟨hparts, fun ha => sameHash_of_hashParts? ha hparts⟩
  · intro source hsource ha
    have hplain := isPlain_of_parseExpr hsource
    refine ⟨⟨spellings_of_hashParts? hplain h ha, hashParts?_of_spellings h⟩, ?_⟩
    intro hparts slots
    exact read_of_sameHash hplain ha (isWritable_of_hashParts? ha hparts) h
      (sameHash_of_hashParts? ha hparts) slots

theorem hashParts?_of_agrees_blanks : ∃ a b, parseExpr "f(1.5) + x" = .ok a ∧
    parseExpr "f( 1.5 )+x" = .ok b ∧ a.agrees b = true ∧ a.hashParts? = b.hashParts? ∧
      ∀ slots : Slots, slots.read (.expression a) = slots.read (.expression b) := by
  have hchecked : ((parseExpr "f(1.5) + x").toOption.bind fun a =>
      (parseExpr "f( 1.5 )+x").toOption.map fun b =>
        a.agrees b && a.isWritable && decide (a.spellings = b.spellings)) = some true := by
    decide +kernel
  cases ha : parseExpr "f(1.5) + x" with
  | error why =>
      rw [ha] at hchecked
      cases hchecked
  | ok a =>
      cases hb : parseExpr "f( 1.5 )+x" with
      | error why =>
          rw [ha, hb] at hchecked
          cases hchecked
      | ok b =>
          rw [ha, hb] at hchecked
          have hall := Option.some.inj hchecked
          rw [Bool.and_eq_true, Bool.and_eq_true, decide_eq_true_iff] at hall
          obtain ⟨⟨hagrees, hwritable⟩, hspellings⟩ := hall
          obtain ⟨hhash, hparsed⟩ := hashParts?_of_agrees hagrees
          obtain ⟨hparts, -⟩ := hhash hspellings
          obtain ⟨-, hslots⟩ := hparsed _ ha hwritable
          exact ⟨a, b, rfl, rfl, hagrees, hparts, fun slots => (hslots hparts slots).1⟩

/-- The expressions `1` and `1.0` are equal, hash differently and address different slots. -/
theorem hashParts?_of_agrees_one :
    ((parseExpr "1").toOption.bind fun a => (parseExpr "1.0").toOption.map fun b =>
      a.agrees b && !decide (a.hashParts? = b.hashParts?) &&
        (Slots.find? [(.expression a, .str "a")] (.expression b)).isNone) = some true := by
  decide +kernel

end Expr

end TemplateScript
