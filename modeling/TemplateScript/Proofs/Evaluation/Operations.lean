import TemplateScript.Proofs.Evaluation.Multiplicity
import TemplateScript.Proofs.Evaluation.Nesting

/-!
# Operations on the values of parts

Once its parts have values, an expression indexes, calls, computes or stores them, and goes on with
what that comes to. No such operation meets several results, and neither does anything that an
evaluation starts, through all functions that it calls and all evaluations that these start in turn.
-/

namespace TemplateScript

variable {σ : Type}

/-- What is done with the values of parts. -/
inductive Operation where
  | index (object key : Value) (loc : Option Location) (subject : Subject)
  | call (function : Value) (args : List Value) (loc : Option Location) (subject : Subject)
  | binary (op : BinaryOp) (left right : Value) (loc : Option Location)
  | unary (op : UnaryOp) (operand : Value) (loc : Option Location) (subject : Subject)
  /-- Whether the left operand of a logical operator is true. -/
  | test (operand : Value)
  /-- Fills positions of a table. -/
  | fill (slots : Slots) (position : Nat) (items : List Value)
  /-- Fills the slot of a key. -/
  | store (slots : Slots) (key value : Value) (loc : Option Location)

namespace Operation

/-- The values that an operation is given. -/
def operands : Operation → List Value
  | .index object key _ _ => [object, key]
  | .call function args _ _ => function :: args
  | .binary _ left right _ => [left, right]
  | .unary _ operand _ _ | .test operand => [operand]
  | .fill _ _ items => items
  | .store _ key value _ => [key, value]

end Operation

/-- What a part or an operation comes to. -/
inductive Outcome where
  | value (v : Value)
  | values (vs : List Value)
  | slots (slots : Slots)
  | truth (holds : Bool)

section

variable (hosts : HostFunctions σ) (nested : Nested σ) (frame : Frame) (scope : ScopeChain)

/-- The evaluation of a part. -/
def Code.run : Code → Eval σ Outcome
  | .expr e => Outcome.value <$> evalExpr hosts nested frame scope e
  | .args es => Outcome.values <$> evalArgs hosts nested frame scope es
  | .fields fs slots position =>
    Outcome.slots <$> evalFields hosts nested frame scope fs slots position

/-- The operation, at an expression of a frame. -/
def Operation.run : Operation → Eval σ Outcome
  | .index object key loc subject =>
    Outcome.value <$> Eval.liftFault
      (Operators.index frame (frame.globals.getD []) object key loc subject)
  | .call function args loc subject =>
    Outcome.value <$> callValue hosts nested frame function args loc subject
  | .binary op left right loc =>
    Outcome.value <$> Eval.liftFault (Operators.binary frame op left right loc)
  | .unary op operand loc subject =>
    Outcome.value <$> Eval.liftFault (Operators.unary frame op operand loc subject)
  | .test operand => pure (.truth operand.isTruthy)
  | .fill slots position items =>
    Outcome.slots <$> Eval.liftTable (assignPositions slots position items)
  | .store slots key value loc => Outcome.slots <$> assignField frame slots key value loc

/-- What is left to do of a part after an operation. -/
def Code.resume (code : Code) (operation : Operation) (outcome : Outcome) : Eval σ Outcome :=
  match code, operation, outcome with
  | .expr (.methodCall _ name es loc), .index object _ _ _, .value function => do
    let values ← evalArgs hosts nested frame scope es
    Outcome.value <$> callValue hosts nested frame function (object :: values) loc (.method name)
  | .expr (.logical op _ right _), .test first, .truth holds =>
    if (op == .and) == holds then
      (fun v => .value v.single) <$> evalExpr hosts nested frame scope right
    else return .value first
  | .fields (_ :: rest) _ position, .fill _ _ _, .slots filled =>
    Outcome.slots <$> evalFields hosts nested frame scope rest filled (position + 1)
  | .fields (_ :: rest) _ position, .store _ _ _ _, .slots filled =>
    Outcome.slots <$> evalFields hosts nested frame scope rest filled position
  | _, _, outcome => pure outcome

/-- The evaluation performs an operation, in a world that the parts leave. -/
inductive Code.Performs : Code → World σ → Operation → World σ → Prop
  | index {obj key : Expr} {loc : Option Location} {object keyValue : Value} {w w₁ w' : World σ}
      (hw : w.cancellation = none) (hobject : obj.Gives hosts nested frame scope w object w₁)
      (hkey : key.Gives hosts nested frame scope w₁ keyValue w') :
      Performs (.expr (.index obj key loc)) w
        (.index object.single keyValue.single loc obj.subject) w'
  | method {obj : Expr} {name : String} {args : List Expr} {loc : Option Location} {object : Value}
      {w w' : World σ} (hw : w.cancellation = none)
      (hobject : obj.Gives hosts nested frame scope w object w') :
      Performs (.expr (.methodCall obj name args loc)) w
        (.index object.single (.str name) loc obj.subject) w'
  | call {fn : Expr} {args : List Expr} {loc : Option Location} {function : Value}
      {values : List Value} {w w₁ w' : World σ} (hw : w.cancellation = none)
      (hfunction : fn.Gives hosts nested frame scope w function w₁)
      (hvalues : (evalArgs hosts nested frame scope args).run w₁ = (.ok values, w')) :
      Performs (.expr (.call fn args loc)) w (.call function.single values loc fn.subject) w'
  | methodCall {obj : Expr} {name : String} {args : List Expr} {loc : Option Location}
      {object function : Value} {values : List Value} {w w₁ w' : World σ}
      (hw : w.cancellation = none) (hobject : obj.Gives hosts nested frame scope w object w₁)
      (hfunction : Operators.index frame (frame.globals.getD []) object.single (.str name) loc
        obj.subject = .ok function)
      (hvalues : (evalArgs hosts nested frame scope args).run w₁ = (.ok values, w')) :
      Performs (.expr (.methodCall obj name args loc)) w
        (.call function (object.single :: values) loc (.method name)) w'
  | logical {op : LogicalOp} {left right : Expr} {loc : Option Location} {first : Value}
      {w w' : World σ} (hw : w.cancellation = none)
      (hleft : left.Gives hosts nested frame scope w first w') :
      Performs (.expr (.logical op left right loc)) w (.test first.single) w'
  | binary {op : BinaryOp} {left right : Expr} {loc : Option Location} {a b : Value}
      {w w₁ w' : World σ} (hw : w.cancellation = none)
      (hleft : left.Gives hosts nested frame scope w a w₁)
      (hright : right.Gives hosts nested frame scope w₁ b w') :
      Performs (.expr (.binary op left right loc)) w (.binary op a.single b.single loc) w'
  | unary {op : UnaryOp} {operand : Expr} {loc : Option Location} {v : Value} {w w' : World σ}
      (hw : w.cancellation = none) (hoperand : operand.Gives hosts nested frame scope w v w') :
      Performs (.expr (.unary op operand loc)) w (.unary op v.single loc operand.subject) w'
  | fill {e : Expr} {rest : List (Option Expr × Expr)} {slots : Slots} {position : Nat}
      {value : Value} {w w' : World σ} (hvalue : e.Gives hosts nested frame scope w value w') :
      Performs (.fields ((none, e) :: rest) slots position) w
        (.fill slots position (value.spread rest.isEmpty)) w'
  | store {key e : Expr} {rest : List (Option Expr × Expr)} {slots : Slots} {position : Nat}
      {value keyValue : Value} {w w₁ w' : World σ}
      (hvalue : e.Gives hosts nested frame scope w value w₁)
      (hkey : key.Gives hosts nested frame scope w₁ keyValue w') :
      Performs (.fields ((some key, e) :: rest) slots position) w
        (.store slots keyValue.single value.single key.loc) w'

end

section

variable {hosts : HostFunctions σ} {nested : Nested σ} {frame : Frame} {scope : ScopeChain}

/-- From the world that the parts leave, the evaluation goes on with the operation, and then with
what that comes to. -/
theorem Code.Performs.run_eq {code : Code} {operation : Operation} {w w' : World σ}
    (h : code.Performs hosts nested frame scope w operation w') :
    (code.run hosts nested frame scope).run w =
      (operation.run hosts nested frame >>=
        code.resume hosts nested frame scope operation).run w' := by
  have hcheck {w : World σ} (hw : w.cancellation = none) :
      (Eval.checkCancelled frame : Eval σ Unit).run w = (.ok (), w) :=
    Eval.run_checkCancelled_of_none hw
  cases h with
  | index hw hobject hkey =>
      rw [Code.run, evalExpr, Faulting.run_map_bind_of_ok (hcheck hw),
        Faulting.run_map_bind_of_ok hobject, Faulting.run_map_bind_of_ok hkey,
        Operation.run, bind_map_left, map_eq_pure_bind]
      rfl
  | method hw hobject =>
      rw [Code.run, evalExpr, Faulting.run_map_bind_of_ok (hcheck hw),
        Faulting.run_map_bind_of_ok hobject, map_bind, Operation.run, bind_map_left]
      simp only [map_bind]
      rfl
  | call hw hfunction hvalues =>
      rw [Code.run, evalExpr, Faulting.run_map_bind_of_ok (hcheck hw),
        Faulting.run_map_bind_of_ok hfunction, Faulting.run_map_bind_of_ok hvalues,
        Operation.run, bind_map_left, map_eq_pure_bind]
      rfl
  | methodCall hw hobject hfunction hvalues =>
      rw [Code.run, evalExpr, Faulting.run_map_bind_of_ok (hcheck hw),
        Faulting.run_map_bind_of_ok hobject,
        Faulting.run_map_bind_of_ok (Eval.run_liftFault_eq_ok.mpr ⟨hfunction, rfl⟩),
        Faulting.run_map_bind_of_ok hvalues, Operation.run, bind_map_left, map_eq_pure_bind]
      rfl
  | @logical op _ _ _ first _ _ hw hleft =>
      rw [Code.run, evalExpr, Faulting.run_map_bind_of_ok (hcheck hw),
        Faulting.run_map_bind_of_ok hleft, Operation.run, pure_bind]
      cases hfirst : first.single.isTruthy <;> cases op <;> simp [Code.resume, hfirst]
  | binary hw hleft hright =>
      rw [Code.run, evalExpr, Faulting.run_map_bind_of_ok (hcheck hw),
        Faulting.run_map_bind_of_ok hleft, Faulting.run_map_bind_of_ok hright,
        Operation.run, bind_map_left, map_eq_pure_bind]
      rfl
  | unary hw hoperand =>
      rw [Code.run, evalExpr, Faulting.run_map_bind_of_ok (hcheck hw),
        Faulting.run_map_bind_of_ok hoperand, Operation.run, bind_map_left, map_eq_pure_bind]
      rfl
  | fill hvalue =>
      rw [Code.run, evalFields, Faulting.run_map_bind_of_ok hvalue, map_bind, Operation.run,
        bind_map_left]
      rfl
  | store hvalue hkey =>
      rw [Code.run, evalFields, Faulting.run_map_bind_of_ok hvalue,
        Faulting.run_map_bind_of_ok hkey, map_bind, Operation.run, bind_map_left]
      rfl

theorem Expr.Calls.performs {e : Expr} {f : Function} {values : List Value} {w w' : World σ}
    (h : e.Calls hosts nested frame scope w f values w') :
    ∃ loc subject, (Code.expr e).Performs hosts nested frame scope w
      (.call (.function f) values loc subject) w' := by
  cases h with
  | call hw hfunction hvalues hf =>
      rw [← hf]
      exact ⟨_, _, .call hw hfunction hvalues⟩
  | methodCall hw hobject hfunction hvalues hf =>
      rw [← hf]
      exact ⟨_, _, .methodCall hw hobject hfunction hvalues⟩

/-! ### Steps -/

def Code.MultiFree : Code → Prop
  | .expr e => e.MultiFree
  | .args es => exprsHaveMulti es = false
  | .fields fs slots _ => fieldsHaveMulti fs = false ∧ slots.All Value.MultiFree

section

variable (hhosts : hosts.MultiFree) (hnested : nested.MultiFree) (hframe : frame.MultiFree)
  (hscope : scope.MultiFree)

include hhosts hnested hframe hscope

theorem Expr.Gives.admits {e : Expr} (he : e.MultiFree) {v : Value} {w w' : World σ}
    (h : e.Gives hosts nested frame scope w v w') : e.Admits v :=
  ensures_evalExpr hhosts hnested hframe hscope e he w v w' h

theorem Expr.Gives.single {e : Expr} (he : e.MultiFree) {v : Value} {w w' : World σ}
    (h : e.Gives hosts nested frame scope w v w') : v.single.MultiFree :=
  (h.admits hhosts hnested hframe hscope he).isResult.single

/-- No operation is given several results. -/
theorem Code.Performs.multiFree {code : Code} {operation : Operation} {w w' : World σ}
    (h : code.Performs hosts nested frame scope w operation w') (hcode : code.MultiFree) :
    ∀ v ∈ operation.operands, v.MultiFree := by
  have hgives {e : Expr} (he : e.MultiFree) {v : Value} {w w' : World σ}
      (h : e.Gives hosts nested frame scope w v w') : v.single.MultiFree :=
    h.single hhosts hnested hframe hscope he
  have hargs {es : List Expr} (hes : exprsHaveMulti es = false) {values : List Value}
      {w w' : World σ} (h : (evalArgs hosts nested frame scope es).run w = (.ok values, w')) :
      ∀ v ∈ values, v.MultiFree :=
    ensures_evalArgs hhosts hnested hframe hscope es hes w values w' h
  have hone {v : Value} (hv : v.MultiFree) : ∀ u ∈ [v], u.MultiFree :=
    List.forall_mem_singleton.mpr hv
  cases h with
  | index hw hobject hkey =>
      obtain ⟨hobj, hkey'⟩ := Bool.or_eq_false_iff.mp hcode
      exact List.forall_mem_cons.mpr ⟨hgives hobj hobject, hone (hgives hkey' hkey)⟩
  | method hw hobject =>
      obtain ⟨hobj, -⟩ := Bool.or_eq_false_iff.mp hcode
      exact List.forall_mem_cons.mpr ⟨hgives hobj hobject, hone rfl⟩
  | call hw hfunction hvalues =>
      obtain ⟨hfn, hes⟩ := Bool.or_eq_false_iff.mp hcode
      exact List.forall_mem_cons.mpr ⟨hgives hfn hfunction, hargs hes hvalues⟩
  | methodCall hw hobject hfunction hvalues =>
      obtain ⟨hobj, hes⟩ := Bool.or_eq_false_iff.mp hcode
      have hobject' := hgives hobj hobject
      refine List.forall_mem_cons.mpr
        ⟨?_, List.forall_mem_cons.mpr ⟨hobject', hargs hes hvalues⟩⟩
      exact Operators.all_index Value.inherited_multiFree hframe.getD_globals hobject' hfunction
  | logical hw hleft => exact hone (hgives (Bool.or_eq_false_iff.mp hcode).1 hleft)
  | binary hw hleft hright =>
      obtain ⟨hl, hr⟩ := Bool.or_eq_false_iff.mp hcode
      exact List.forall_mem_cons.mpr ⟨hgives hl hleft, hone (hgives hr hright)⟩
  | @unary _ operand _ _ _ _ hw hoperand => exact hone (hgives (e := operand) hcode hoperand)
  | @fill e rest _ _ _ _ _ hvalue =>
      obtain ⟨he, -⟩ := Bool.or_eq_false_iff.mp hcode.1
      exact (hvalue.admits hhosts hnested hframe hscope he).isResult.spread rest.isEmpty
  | store hvalue hkey =>
      obtain ⟨hboth, -⟩ := Bool.or_eq_false_iff.mp hcode.1
      obtain ⟨hkey', he⟩ := Bool.or_eq_false_iff.mp hboth
      exact List.forall_mem_cons.mpr ⟨hgives hkey' hkey, hone (hgives he hvalue)⟩

theorem Code.Enters.multiFree {code part : Code} {w w' : World σ}
    (h : code.Enters hosts nested frame scope w part w') (hcode : code.MultiFree) :
    part.MultiFree := by
  cases h with
  | paren | unary => exact hcode
  | tableConstructor => exact ⟨hcode, List.forall_mem_nil _⟩
  | indexObject | callee | methodObject | logicalLeft | binaryLeft | firstArg =>
      exact (Bool.or_eq_false_iff.mp hcode).1
  | indexKey | callArgs | methodArgs | logicalRight | binaryRight | laterArgs =>
      exact (Bool.or_eq_false_iff.mp hcode).2
  | @fieldValue key =>
      cases key with
      | none => exact (Bool.or_eq_false_iff.mp hcode.1).1
      | some key =>
          obtain ⟨hboth, -⟩ := Bool.or_eq_false_iff.mp hcode.1
          exact (Bool.or_eq_false_iff.mp hboth).2
  | fieldKey =>
      obtain ⟨hboth, -⟩ := Bool.or_eq_false_iff.mp hcode.1
      exact (Bool.or_eq_false_iff.mp hboth).1
  | laterFields hrest hvalue hassign =>
      obtain ⟨he, hfields⟩ := Bool.or_eq_false_iff.mp hcode.1
      refine ⟨hfields, all_assignPositions Value.inherited_multiFree hcode.2 ?_ hassign⟩
      exact List.forall_mem_singleton.mpr (hvalue.single hhosts hnested hframe hscope he)
  | laterKeyedFields hvalue hkey hassign =>
      obtain ⟨hboth, hfields⟩ := Bool.or_eq_false_iff.mp hcode.1
      obtain ⟨hkey', he⟩ := Bool.or_eq_false_iff.mp hboth
      have hkeyValue := hkey.single hhosts hnested hframe hscope hkey'
      have hvalue' := hvalue.single hhosts hnested hframe hscope he
      exact ⟨hfields, ensures_assignField frame hcode.2 hkeyValue hvalue' _ _ _ _ hassign⟩

end

end

/-! ### Runs -/

namespace Activity

/-- No several results are in what is under way. -/
def MultiFree : Activity → Prop
  | .filling _ _ frame template augmentation =>
    frame.MultiFree ∧ template.MultiFree ∧ augmentation.MultiFree
  | .evaluation _ frame _ augmentation => frame.MultiFree ∧ augmentation.MultiFree
  | .parsed _ frame e augmentation => frame.MultiFree ∧ e.MultiFree ∧ augmentation.MultiFree
  | .code _ frame scope part => frame.MultiFree ∧ scope.MultiFree ∧ part.MultiFree
  | .call _ frame _ args => frame.MultiFree ∧ ∀ arg ∈ args, arg.MultiFree

variable {hosts : HostFunctions σ}

/-- What an activity starts is free of several results if the activity is. -/
theorem Starts.multiFree (hhosts : hosts.MultiFree) {outer inner : Activity × World σ}
    (h : Starts hosts outer inner) (houter : outer.1.MultiFree) : inner.1.MultiFree := by
  cases h with
  | directive => exact ⟨houter.1, houter.2.2⟩
  | text hglobals hparse => exact ⟨houter.1, multiFree_of_parseExpr hparse, houter.2⟩
  | body hscope =>
      obtain ⟨hframe, he, haugmentation⟩ := houter
      exact ⟨hframe, all_openedScope hframe haugmentation hscope, he⟩
  | @part depth _ _ _ _ _ _ h =>
      obtain ⟨hframe, hscope, hwhole⟩ := houter
      have hnested := multiFree_nestedTo hhosts depth
      exact ⟨hframe, hscope, h.multiFree hhosts hnested hframe hscope hwhole⟩
  | @call depth _ _ _ _ _ _ _ h =>
      obtain ⟨hframe, hscope, he⟩ := houter
      have hnested := multiFree_nestedTo hhosts depth
      obtain ⟨loc, subject, hcall⟩ := h.performs
      have hoperands := hcall.multiFree hhosts hnested hframe hscope he
      exact ⟨hframe, (List.forall_mem_cons.mp hoperands).2⟩
  | interpolate =>
      obtain ⟨hframe, hargs⟩ := houter
      exact ⟨hframe, Value.all_getD hargs 0 rfl, Value.all_getD hargs 1 rfl⟩
  | @evalExpression _ _ _ args _ _ hcount hglobals hparsed =>
      obtain ⟨hframe, hargs⟩ := houter
      have he : (args.getD 0 .nil).MultiFree := Value.all_getD hargs 0 rfl
      rw [hparsed] at he
      exact ⟨hframe, he, Value.all_getD hargs 1 rfl⟩

theorem multiFree_of_reaches (hhosts : hosts.MultiFree) {start reached : Activity × World σ}
    (h : Relation.ReflTransGen (Starts hosts) start reached) (hstart : start.1.MultiFree) :
    reached.1.MultiFree := by
  induction h with
  | refl => exact hstart
  | tail _ hstep ih => exact hstep.multiFree hhosts ih

end Activity

/-- Where neither the environment nor anything else that an activity starts from holds several
results, and host functions give them as results of a call at most, the same is true of all that is
started in turn, to any depth. An operation on the values of parts, with which the evaluation goes
on from there, is not given several results as an operand, an index, a function, an argument, or a
key or an item of a table. Only calls come to several results, none of which holds several in turn,
and a runner comes to none. An expression that is read from a text holds none to begin with. -/
theorem multi_confined (hosts : HostFunctions σ) (hhosts : hosts.MultiFree) :
    (∀ start reached, Relation.ReflTransGen (Activity.Starts hosts) start reached →
      start.1.MultiFree → reached.1.MultiFree ∧
        ∀ depth frame scope part, reached.1 = .code depth frame scope part →
          (∀ operation w',
            part.Performs hosts (nestedTo hosts depth) frame scope reached.2 operation w' →
              (part.run hosts (nestedTo hosts depth) frame scope).run reached.2 =
                (operation.run hosts (nestedTo hosts depth) frame >>=
                  part.resume hosts (nestedTo hosts depth) frame scope operation).run w' ∧
              ∀ v ∈ operation.operands, v.MultiFree) ∧
          ∀ e, part = .expr e → ∀ v w',
            e.Gives hosts (nestedTo hosts depth) frame scope reached.2 v w' →
              v.MultiFree ∨ e.isCall ∧ ∃ items, v = .multi items ∧
                ∀ item ∈ items, item.MultiFree) ∧
      (∀ (runner : Runner) source augmentation, runner.MultiFree → augmentation.MultiFree →
        ∀ w v w', (runner.evaluate hosts source augmentation).run w = (.ok v, w') →
          v.MultiFree) ∧
      ∀ source e, parseExpr source = .ok e → e.MultiFree := by
  refine ⟨fun start reached hreaches hstart => ?_, fun runner source augmentation hrunner
    haugmentation => runner.ensures_evaluate hhosts hrunner source haugmentation,
    fun source e => multiFree_of_parseExpr⟩
  have hreached := Activity.multiFree_of_reaches hhosts hreaches hstart
  refine ⟨hreached, fun depth frame scope part hpart => ?_⟩
  rw [hpart] at hreached
  obtain ⟨hframe, hscope, hcode⟩ := hreached
  have hnested := multiFree_nestedTo hhosts depth
  refine ⟨fun operation w' h =>
    ⟨h.run_eq, h.multiFree hhosts hnested hframe hscope hcode⟩, ?_⟩
  rintro e rfl v w' hgives
  obtain hv | ⟨hcall, hv | hitems⟩ := hgives.admits hhosts hnested hframe hscope hcode
  · exact .inl hv
  · exact .inl hv
  · exact .inr ⟨hcall, hitems⟩

set_option maxRecDepth 8192 in
/-- A host function gives back its arguments, and is called with what it gives back. -/
theorem multi_confined_arguments :
    let hosts : HostFunctions Unit := fun _ args => pure (.multi args)
    let f : Value := .function (.host "f" "f")
    let runner : Runner := ⟨some [("f", f)], none, false⟩
    let scope : ScopeChain := [[("f", f)]]
    let inner : Expr :=
      .call (.variable "f" none) [.literal (.ofInt 2) none, .literal (.ofInt 3) none] none
    let e : Expr := .call (.variable "f" none) [.literal (.ofInt 1) none, inner] none
    let w : World Unit := ⟨none, 0, ()⟩
    let start : Activity × World Unit := (.code 0 (runner.frame none) scope (.expr e), w)
    hosts.MultiFree ∧ start.1.MultiFree ∧
      (∃ operation w', (Code.expr e).Performs hosts (nestedTo hosts 0) (runner.frame none) scope w
          operation w' ∧
        operation.operands = [f, .ofInt 1, .ofInt 2, .ofInt 3] ∧
        ∀ v ∈ operation.operands, v.MultiFree) ∧
      (∃ v w', e.Gives hosts (nestedTo hosts 0) (runner.frame none) scope w v w' ∧
        (v.MultiFree ∨ e.isCall ∧ ∃ items, v = .multi items ∧ ∀ item ∈ items, item.MultiFree)) ∧
      ∃ v w', (runner.evaluate hosts (.str "f(1, f(2, 3))") .nil).run w = (.ok v, w') ∧
        v.MultiFree := by
  intro hosts f runner scope inner e w start
  have hhosts : hosts.MultiFree := by
    intro key args hargs
    exact .pure (.inr ⟨args, rfl, hargs⟩)
  have hbindings : Bindings.All Value.MultiFree [("f", f)] := List.forall_mem_singleton.mpr rfl
  have hrunner : runner.MultiFree := by
    rintro _ ⟨⟩
    exact hbindings
  have hstart : start.1.MultiFree := ⟨hrunner, List.forall_mem_singleton.mpr hbindings, rfl⟩
  obtain ⟨hruns, hevaluate, -⟩ := multi_confined hosts hhosts
  obtain ⟨hoperands, hgives⟩ := (hruns start start .refl hstart).2 0 _ _ _ rfl
  have hperforms : (Code.expr e).Performs hosts (nestedTo hosts 0) (runner.frame none) scope w
      (.call f [.ofInt 1, .ofInt 2, .ofInt 3] none (.variable "f")) w := by
    have hfunction : (Expr.variable "f" none).Gives hosts (nestedTo hosts 0) (runner.frame none)
        scope w f w := rfl
    exact .call rfl hfunction rfl
  have hvalue : e.Gives hosts (nestedTo hosts 0) (runner.frame none) scope w
      (.multi [.ofInt 1, .ofInt 2, .ofInt 3]) w := rfl
  obtain ⟨v, w', hrun⟩ : ∃ v w',
      (runner.evaluate hosts (.str "f(1, f(2, 3))") .nil).run w = (.ok v, w') :=
    ⟨_, _, rfl⟩
  have hresult : v.MultiFree := hevaluate runner (.str "f(1, f(2, 3))") .nil hrunner rfl w v w' hrun
  exact ⟨hhosts, hstart, ⟨_, _, hperforms, rfl, (hoperands _ _ hperforms).2⟩,
    ⟨_, _, hvalue, hgives e rfl _ _ hvalue⟩, v, w', hrun, hresult⟩

end TemplateScript
