import TemplateScript.Evaluation.Template
import TemplateScript.Proofs.Evaluation.Run

/-!
# Faults in expressions

The parts of an expression are evaluated one after another, and a function is called when it and its
arguments have values. A part that fails is the end of the whole expression, which fails with the
same fault: nothing in the language catches one. A fault of the host is attributed to the call from
which it comes.
-/

namespace TemplateScript

variable {σ α β : Type}

/-! ### Programs that fail -/

/-- A run that ends with a fault, whatever it has changed. -/
def Eval.Fails (x : Eval σ α) (w : World σ) (fault : Fault) : Prop :=
  ∃ w', x.run w = (.error fault, w')

namespace Eval.Fails

variable {x : Eval σ α} {next : α → Eval σ β} {w w' : World σ} {fault : Fault}

theorem first (h : x.Fails w fault) : (x >>= next).Fails w fault := by
  obtain ⟨w', hrun⟩ := h
  exact ⟨w', Faulting.run_bind_of_error hrun⟩

theorem after {a : α} (h : x.run w = (.ok a, w')) (hnext : (next a).Fails w' fault) :
    (x >>= next).Fails w fault := by
  obtain ⟨w'', hrun⟩ := hnext
  exact ⟨w'', (Faulting.run_bind_of_ok h).trans hrun⟩

theorem afterCheck {frame : Frame} {next : Unit → Eval σ β} (hw : w.cancellation = none)
    (hnext : (next ()).Fails w fault) : (Eval.checkCancelled frame >>= next).Fails w fault :=
  after (run_checkCancelled_of_none hw) hnext

end Eval.Fails

/-- A fault that ends with what another one says and is of its kind. -/
def Fault.Carries (outer inner : Fault) : Prop :=
  (∃ opening, outer.message = opening ++ inner.message) ∧ outer.kind = inner.kind

namespace Fault.Carries

theorem refl (fault : Fault) : fault.Carries fault :=
  ⟨⟨"", (String.empty_append).symm⟩, rfl⟩

theorem trans {outer middle inner : Fault} (h : outer.Carries middle) (h' : middle.Carries inner) :
    outer.Carries inner := by
  obtain ⟨⟨opening, hopening⟩, hkind⟩ := h
  obtain ⟨⟨opening', hopening'⟩, hkind'⟩ := h'
  refine ⟨⟨opening ++ opening', ?_⟩, hkind.trans hkind'⟩
  rw [hopening, hopening', String.append_assoc]

theorem ofEvaluation (expression : String) (cause : Fault) :
    (Fault.ofEvaluation expression cause).Carries cause :=
  ⟨⟨s!"Error evaluating \"{expression}\": ", rfl⟩, rfl⟩

end Fault.Carries

/-- What a fault of a call is outside the call. -/
def Frame.attributed (frame : Frame) (f : Function) (loc : Option Location) : Fault → Fault
  | .host why => frame.fault (.callFailed f.name why) loc
  | fault => fault

theorem attributed_carries (frame : Frame) (f : Function) (loc : Option Location) (fault : Fault) :
    (frame.attributed f loc fault).Carries fault := by
  cases fault with
  | host why => exact ⟨⟨s!"{f.name}: ", rfl⟩, rfl⟩
  | _ => exact .refl _

/-- Behind a fault lies this one of the host: a call that it ended names it, and evaluations that
fail because of it do so as well. -/
inductive Fault.RestsOn (why : HostFault) : Fault → Prop
  | host : RestsOn why (.host why)
  | call {function : String} {kind : FaultKind} {expression : Option String}
      {loc : Option Location} :
      RestsOn why (.runtime (.callFailed function why) kind expression loc)
  | evaluation {text : String} {cause : Fault} {kind : FaultKind} {expression : Option String}
      {loc : Option Location} (h : RestsOn why cause) :
      RestsOn why (.runtime (.evaluation text cause) kind expression loc)

namespace Fault.RestsOn

variable {why : HostFault} {fault : Fault}

theorem attributed (h : fault.RestsOn why) (frame : Frame) (f : Function) (loc : Option Location) :
    (frame.attributed f loc fault).RestsOn why := by
  cases h with
  | host => exact .call
  | call => exact .call
  | evaluation h => exact .evaluation h

theorem locatedAt (h : fault.RestsOn why) (loc : Location) : (fault.locatedAt loc).RestsOn why := by
  cases h with
  | host => exact .host
  | @call _ _ _ loc => cases loc <;> exact .call
  | @evaluation _ _ _ _ loc h => cases loc <;> exact .evaluation h

end Fault.RestsOn

/-! ### Parts of expressions -/

/-- What is evaluated in an expression: itself, arguments, or the fields of a table that come after
those in the slots. -/
inductive Code where
  | expr (e : Expr)
  | args (es : List Expr)
  | fields (fs : List (Option Expr × Expr)) (slots : Slots) (position : Nat)

section

variable (hosts : HostFunctions σ) (nested : Nested σ) (frame : Frame) (scope : ScopeChain)

/-- An expression has a value. -/
def Expr.Gives (e : Expr) (w : World σ) (value : Value) (w' : World σ) : Prop :=
  (evalExpr hosts nested frame scope e).run w = (.ok value, w')

def Code.Fails (code : Code) (w : World σ) (fault : Fault) : Prop :=
  match code with
  | .expr e => (evalExpr hosts nested frame scope e).Fails w fault
  | .args es => (evalArgs hosts nested frame scope es).Fails w fault
  | .fields fs slots position =>
    (evalFields hosts nested frame scope fs slots position).Fails w fault

/-- The evaluation goes on to a part, in a world that the parts before it leave. -/
inductive Code.Enters : Code → World σ → Code → World σ → Prop
  | paren {inner : Expr} {loc : Option Location} {w : World σ} (hw : w.cancellation = none) :
      Enters (.expr (.paren inner loc)) w (.expr inner) w
  | indexObject {obj key : Expr} {loc : Option Location} {w : World σ}
      (hw : w.cancellation = none) : Enters (.expr (.index obj key loc)) w (.expr obj) w
  | indexKey {obj key : Expr} {loc : Option Location} {object : Value} {w w' : World σ}
      (hw : w.cancellation = none) (hobject : obj.Gives hosts nested frame scope w object w') :
      Enters (.expr (.index obj key loc)) w (.expr key) w'
  | callee {fn : Expr} {args : List Expr} {loc : Option Location} {w : World σ}
      (hw : w.cancellation = none) : Enters (.expr (.call fn args loc)) w (.expr fn) w
  | callArgs {fn : Expr} {args : List Expr} {loc : Option Location} {function : Value}
      {w w' : World σ} (hw : w.cancellation = none)
      (hfunction : fn.Gives hosts nested frame scope w function w') :
      Enters (.expr (.call fn args loc)) w (.args args) w'
  | methodObject {obj : Expr} {name : String} {args : List Expr} {loc : Option Location}
      {w : World σ} (hw : w.cancellation = none) :
      Enters (.expr (.methodCall obj name args loc)) w (.expr obj) w
  | methodArgs {obj : Expr} {name : String} {args : List Expr} {loc : Option Location}
      {object function : Value} {w w' : World σ} (hw : w.cancellation = none)
      (hobject : obj.Gives hosts nested frame scope w object w')
      (hfunction : Operators.index frame (frame.globals.getD []) object.single (.str name) loc
        obj.subject = .ok function) :
      Enters (.expr (.methodCall obj name args loc)) w (.args args) w'
  | logicalLeft {op : LogicalOp} {left right : Expr} {loc : Option Location} {w : World σ}
      (hw : w.cancellation = none) : Enters (.expr (.logical op left right loc)) w (.expr left) w
  | logicalRight {op : LogicalOp} {left right : Expr} {loc : Option Location} {first : Value}
      {w w' : World σ} (hw : w.cancellation = none)
      (hleft : left.Gives hosts nested frame scope w first w')
      (hneeded : op = .and ↔ first.single.isTruthy) :
      Enters (.expr (.logical op left right loc)) w (.expr right) w'
  | binaryLeft {op : BinaryOp} {left right : Expr} {loc : Option Location} {w : World σ}
      (hw : w.cancellation = none) : Enters (.expr (.binary op left right loc)) w (.expr left) w
  | binaryRight {op : BinaryOp} {left right : Expr} {loc : Option Location} {first : Value}
      {w w' : World σ} (hw : w.cancellation = none)
      (hleft : left.Gives hosts nested frame scope w first w') :
      Enters (.expr (.binary op left right loc)) w (.expr right) w'
  | unary {op : UnaryOp} {operand : Expr} {loc : Option Location} {w : World σ}
      (hw : w.cancellation = none) : Enters (.expr (.unary op operand loc)) w (.expr operand) w
  | tableConstructor {fields : List (Option Expr × Expr)} {loc : Option Location} {w : World σ}
      (hw : w.cancellation = none) :
      Enters (.expr (.tableConstructor fields loc)) w (.fields fields [] 1) w
  | firstArg {arg : Expr} {rest : List Expr} {w : World σ} :
      Enters (.args (arg :: rest)) w (.expr arg) w
  | laterArgs {arg : Expr} {rest : List Expr} {first : Value} {w w' : World σ} (hrest : rest ≠ [])
      (hfirst : arg.Gives hosts nested frame scope w first w') :
      Enters (.args (arg :: rest)) w (.args rest) w'
  | fieldValue {key : Option Expr} {e : Expr} {rest : List (Option Expr × Expr)} {slots : Slots}
      {position : Nat} {w : World σ} :
      Enters (.fields ((key, e) :: rest) slots position) w (.expr e) w
  | fieldKey {key e : Expr} {rest : List (Option Expr × Expr)} {slots : Slots} {position : Nat}
      {value : Value} {w w' : World σ} (hvalue : e.Gives hosts nested frame scope w value w') :
      Enters (.fields ((some key, e) :: rest) slots position) w (.expr key) w'
  | laterFields {e : Expr} {rest : List (Option Expr × Expr)} {slots slots' : Slots}
      {position : Nat} {value : Value} {w w' : World σ} (hrest : rest ≠ [])
      (hvalue : e.Gives hosts nested frame scope w value w')
      (hassign : assignPositions slots position [value.single] = .ok slots') :
      Enters (.fields ((none, e) :: rest) slots position) w
        (.fields rest slots' (position + 1)) w'
  | laterKeyedFields {key e : Expr} {rest : List (Option Expr × Expr)} {slots slots' : Slots}
      {position : Nat} {value keyValue : Value} {w w₁ w₂ w' : World σ}
      (hvalue : e.Gives hosts nested frame scope w value w₁)
      (hkey : key.Gives hosts nested frame scope w₁ keyValue w₂)
      (hassign : (assignField frame slots keyValue.single value.single key.loc).run w₂ =
        (.ok slots', w')) :
      Enters (.fields ((some key, e) :: rest) slots position) w (.fields rest slots' position) w'

end

variable {hosts : HostFunctions σ} {nested : Nested σ} {frame : Frame} {scope : ScopeChain}

/-- The fault of a part is the fault of the whole. -/
theorem Code.Enters.fails {code part : Code} {w w' : World σ} {fault : Fault}
    (h : code.Enters hosts nested frame scope w part w')
    (hpart : part.Fails hosts nested frame scope w' fault) :
    code.Fails hosts nested frame scope w fault := by
  cases h with
  | paren hw | indexObject hw | callee hw | methodObject hw | logicalLeft hw | binaryLeft hw
  | unary hw | tableConstructor hw =>
      rw [Code.Fails, evalExpr]
      exact .afterCheck hw (.first hpart)
  | indexKey hw hfirst | callArgs hw hfirst | binaryRight hw hfirst =>
      rw [Code.Fails, evalExpr]
      exact .afterCheck hw (.after hfirst (.first hpart))
  | methodArgs hw hobject hfunction =>
      rw [Code.Fails, evalExpr]
      refine .afterCheck hw (.after hobject ?_)
      simp only [hfunction, Eval.liftFault_ok, pure_bind]
      exact .first hpart
  | @logicalRight op _ _ _ first _ _ hw hleft hneeded =>
      rw [Code.Fails, evalExpr]
      refine .afterCheck hw (.after hleft ?_)
      cases op with
      | and =>
          have htrue : first.single.isTruthy = true := hneeded.mp rfl
          simp only [htrue, if_true]
          exact .first hpart
      | or | unknown spelling =>
          have hfalse : ¬first.single.isTruthy = true := fun htrue => nomatch hneeded.mpr htrue
          simp only [hfalse]
          exact .first hpart
  | firstArg =>
      rw [Code.Fails, evalArgs]
      exact .first hpart
  | laterArgs hrest hfirst =>
      rw [Code.Fails, evalArgs]
      refine .after hfirst ?_
      rw [if_neg (by simpa using hrest)]
      exact .first hpart
  | @fieldValue key =>
      cases key with
      | none | some key =>
          rw [Code.Fails, evalFields]
          exact .first hpart
  | fieldKey hvalue =>
      rw [Code.Fails, evalFields]
      exact .after hvalue (.first hpart)
  | laterFields hrest hvalue hassign =>
      rw [Code.Fails, evalFields]
      refine .after hvalue ?_
      simp only [List.isEmpty_iff, hrest, if_false, hassign]
      exact hpart
  | laterKeyedFields hvalue hkey hassign =>
      rw [Code.Fails, evalFields]
      exact .after hvalue (.after hkey (.after hassign hpart))

/-! ### Calls -/

/-- The faults of a function are attributed to its call. -/
theorem callValue_function (f : Function) (args : List Value) (loc : Option Location)
    (subject : Subject) :
    callValue hosts nested frame (.function f) args loc subject =
      tryCatch (f.run hosts nested frame args) fun fault =>
        throw (frame.attributed f loc fault) := by
  rw [callValue]
  congr 1
  funext fault
  cases fault <;> rfl

theorem callValue_fails {function : Value} {f : Function} (hf : function = .function f)
    {values : List Value} {loc : Option Location} {subject : Subject} {w : World σ} {fault : Fault}
    (h : (f.run hosts nested frame values).Fails w fault) :
    (callValue hosts nested frame function values loc subject).Fails w
      (frame.attributed f loc fault) := by
  obtain ⟨w', hrun⟩ := h
  refine ⟨w', ?_⟩
  rw [hf, callValue_function, Faulting.run_tryCatch, hrun]
  rfl

section

variable (hosts nested frame scope)

/-- An expression calls a function with the values of its arguments. -/
inductive Expr.Calls : Expr → World σ → Function → List Value → World σ → Prop
  | call {fn : Expr} {args : List Expr} {loc : Option Location} {function : Value} {f : Function}
      {values : List Value} {w w₁ w' : World σ} (hw : w.cancellation = none)
      (hfunction : fn.Gives hosts nested frame scope w function w₁)
      (hvalues : (evalArgs hosts nested frame scope args).run w₁ = (.ok values, w'))
      (hf : function.single = .function f) : Calls (.call fn args loc) w f values w'
  | methodCall {obj : Expr} {name : String} {args : List Expr} {loc : Option Location}
      {object function : Value} {f : Function} {values : List Value} {w w₁ w' : World σ}
      (hw : w.cancellation = none) (hobject : obj.Gives hosts nested frame scope w object w₁)
      (hfunction : Operators.index frame (frame.globals.getD []) object.single (.str name) loc
        obj.subject = .ok function)
      (hvalues : (evalArgs hosts nested frame scope args).run w₁ = (.ok values, w'))
      (hf : function = .function f) :
      Calls (.methodCall obj name args loc) w f (object.single :: values) w'

end

/-- The fault of a call, attributed to it, is the fault of the expression. -/
theorem Expr.Calls.fails {e : Expr} {f : Function} {values : List Value} {w w' : World σ}
    {fault : Fault} (h : e.Calls hosts nested frame scope w f values w')
    (hf : (f.run hosts nested frame values).Fails w' fault) :
    (evalExpr hosts nested frame scope e).Fails w (frame.attributed f e.loc fault) := by
  cases h with
  | call hw hfunction hvalues hfn =>
      rw [evalExpr]
      exact .afterCheck hw (.after hfunction (.after hvalues (callValue_fails hfn hf)))
  | methodCall hw hobject hfunction hvalues hfn =>
      rw [evalExpr]
      refine .afterCheck hw (.after hobject ?_)
      simp only [hfunction, Eval.liftFault_ok, pure_bind]
      exact .after hvalues (callValue_fails hfn hf)

end TemplateScript
