import TemplateScript.Proofs.Document.Congruence
import TemplateScript.Proofs.Evaluation.Renumbering

/-!
# Correspondences of programs

A correspondence relates programs in one environment to programs in another one, of which the second
do with other numbers what the first do. It is kept when programs are put together, as long as they
handle what is known, and it relates the few programs that touch the world. Every evaluation then
corresponds to the same evaluation under the other numbers; what is said of the worlds and of host
functions is left to each correspondence.
-/

namespace TemplateScript

variable {σ τ α β : Type}

/-- Where the numbers are in the results of a program, and which of the results hold known things
only. -/
structure Holding (α : Type) where
  renumber : (Nat → Nat) → α → α
  Within : (Entity → Prop) → α → Prop
  /-- Where everything is known, so is all that a result holds. -/
  within_all (a : α) : Within (fun _ => True) a

namespace Holding

def value : Holding Value where
  renumber := Value.renumber
  Within := Value.Within
  within_all _ _ _ := trivial

def expr : Holding Expr where
  renumber := Expr.renumber
  Within := Expr.Within
  within_all _ _ _ := trivial

def values : Holding (List Value) where
  renumber f := List.map (Value.renumber f)
  Within known values := ∀ v ∈ values, v.Within known
  within_all _ _ _ _ _ := trivial

def slots : Holding Slots where
  renumber := Slots.renumber
  Within := Slots.Within
  within_all _ _ _ := ⟨fun _ _ => trivial, fun _ _ => trivial⟩

def bindings : Holding Bindings where
  renumber := Bindings.renumber
  Within := Bindings.Within
  within_all _ _ _ _ _ := trivial

/-- Results without numbers. -/
def nothing : Holding α where
  renumber _ a := a
  Within _ _ := True
  within_all _ := trivial

/-- Results of programs that may fail; nothing in a fault has a number. -/
def outcome (H : Holding α) : Holding (Except Fault α) where
  renumber f := Except.map (H.renumber f)
  Within known result := ∀ a, result = .ok a → H.Within known a
  within_all _ a _ := H.within_all a

end Holding

structure Correspondence (σ τ : Type) where
  number : Nat → Nat
  injective : number.Injective
  known : Entity → Prop
  hosts : HostFunctions σ
  hosts' : HostFunctions τ
  rel {α : Type} : Holding α → StateM (World σ) α → StateM (World τ) α → Prop
  rel_pure {α : Type} {H : Holding α} {a : α} (h : H.Within known a) :
    rel H (pure a) (pure (H.renumber number a))
  rel_bind {α β : Type} {H : Holding α} {H' : Holding β} {x : StateM (World σ) α}
    {y : StateM (World τ) α} {next : α → StateM (World σ) β} {next' : α → StateM (World τ) β}
    (h : rel H x y)
    (hnext : ∀ a, H.Within known a → rel H' (next a) (next' (H.renumber number a))) :
    rel H' (x >>= next) (y >>= next')
  rel_check (frame : Frame) :
    rel Holding.nothing.outcome (Eval.checkCancelled frame).run
      (Eval.checkCancelled (frame.renumber number)).run
  rel_newTable (slots : Slots) (h : slots.Within known) :
    rel Holding.value.outcome (Eval.newTable slots).run
      (Eval.newTable (slots.renumber number)).run
  rel_call (key : String) (args : List Value) (h : ∀ arg ∈ args, arg.Within known) :
    rel Holding.value.outcome (hosts key args).run
      (hosts' key (args.map (Value.renumber number))).run

namespace Correspondence

variable (c : Correspondence σ τ)

/-- Programs that may fail correspond. -/
def Related (H : Holding α) (x : Eval σ α) (y : Eval τ α) : Prop :=
  c.rel H.outcome x.run y.run

/-- Programs without numbers in their results. -/
def toCongruence : Congruence (World σ) (World τ) where
  rel := c.rel Holding.nothing
  pure _ := c.rel_pure trivial
  bind h hnext := c.rel_bind h fun a _ => hnext a

variable {c}

namespace Related

variable {H : Holding α} {H' : Holding β} {x : Eval σ α} {y : Eval τ α}

theorem pure {a : α} (h : H.Within c.known a) :
    c.Related H (pure a) (pure (H.renumber c.number a)) :=
  c.rel_pure (H := H.outcome) (a := .ok a) fun _ hok => Except.ok.inj hok ▸ h

theorem pure_same (a : α) : c.Related Holding.nothing (Pure.pure a) (Pure.pure a) :=
  pure trivial

theorem pure_of_eq {a b : α} (h : H.Within c.known a) (heq : b = H.renumber c.number a) :
    c.Related H (Pure.pure a) (Pure.pure b) :=
  heq ▸ pure h

theorem throw (fault : Fault) : c.Related H (throw fault) (throw fault) :=
  c.rel_pure (H := H.outcome) (a := .error fault) fun _ h => nomatch h

theorem bind {next : α → Eval σ β} {next' : α → Eval τ β} (h : c.Related H x y)
    (hnext : ∀ a, H.Within c.known a → c.Related H' (next a) (next' (H.renumber c.number a))) :
    c.Related H' (x >>= next) (y >>= next') := by
  rw [Related, ExceptT.run_bind, ExceptT.run_bind]
  refine c.rel_bind h fun result hresult => ?_
  cases result with
  | error fault => exact throw fault
  | ok a => exact hnext a (hresult a rfl)

/-- A fault is replaced alike on both sides. -/
theorem rethrow {handler : Fault → Eval σ α} {handler' : Fault → Eval τ α} (outer : Fault → Fault)
    (h : c.Related H x y) (hhandler : ∀ fault, handler fault = MonadExcept.throw (outer fault))
    (hhandler' : ∀ fault, handler' fault = MonadExcept.throw (outer fault)) :
    c.Related H (tryCatch x handler) (tryCatch y handler') := by
  rw [Related, ExceptT.run_tryCatch, ExceptT.run_tryCatch]
  refine c.rel_bind h fun result hresult => ?_
  cases result with
  | error fault =>
      change c.Related H (handler fault) (handler' fault)
      rw [hhandler, hhandler']
      exact throw (outer fault)
  | ok a => exact pure (hresult a rfl)

theorem liftFault {result result' : Except Fault α}
    (heq : result' = result.map (H.renumber c.number))
    (h : ∀ a, result = .ok a → H.Within c.known a) :
    c.Related H (Eval.liftFault result) (Eval.liftFault result') := by
  rw [heq]
  cases result with
  | error fault => exact throw fault
  | ok a => exact pure (h a rfl)

theorem liftHost {result result' : Except HostFault α}
    (heq : result' = result.map (H.renumber c.number))
    (h : ∀ a, result = .ok a → H.Within c.known a) :
    c.Related H (Eval.liftHost result) (Eval.liftHost result') := by
  rw [heq]
  cases result with
  | error why => exact throw (.host why)
  | ok a => exact pure (h a rfl)

theorem liftTable {result result' : Except TableFault α}
    (heq : result' = result.map (H.renumber c.number))
    (h : ∀ a, result = .ok a → H.Within c.known a) :
    c.Related H (Eval.liftTable result) (Eval.liftTable result') := by
  rw [heq]
  cases result with
  | error why => exact throw (.ofTable why)
  | ok a => exact pure (h a rfl)

/-- A program whose results have no numbers is related to itself. -/
theorem liftHost_same (result : Except HostFault α) :
    c.Related Holding.nothing (Eval.liftHost result) (Eval.liftHost result) :=
  liftHost (by cases result <;> rfl) fun _ _ => trivial

theorem liftFault_same (result : Except Fault α) :
    c.Related Holding.nothing (Eval.liftFault result) (Eval.liftFault result) :=
  liftFault (by cases result <;> rfl) fun _ _ => trivial

/-- A result in which nothing has a number. -/
theorem liftFault_plain {result : Except Fault Value} (h : GivesPlain result) :
    c.Related Holding.value (Eval.liftFault result) (Eval.liftFault result) := by
  refine liftFault ?_ fun v hv => Value.within_of_isPlain (h v hv)
  cases result with
  | error fault => rfl
  | ok v =>
      have hv : v.entities = [] := Value.entities_of_isPlain (h v rfl)
      exact congrArg Except.ok (Value.renumber_of_entities_eq_nil hv).symm

theorem checked {frame : Frame} {x : Eval σ α} {y : Eval τ α} (h : c.Related H x y) :
    c.Related H (do Eval.checkCancelled frame; x)
      (do Eval.checkCancelled (frame.renumber c.number); y) :=
  bind (H := Holding.nothing) (c.rel_check frame) fun _ _ => h

end Related

end Correspondence

/-- The evaluations that scripts start correspond. -/
structure Nested.Related (c : Correspondence σ τ) (nested : Nested σ) (nested' : Nested τ) :
    Prop where
  evalExpression {frame : Frame} {parsed augmentation : Value} (hframe : frame.Within c.known)
    (hparsed : parsed.Within c.known) (haugmentation : augmentation.Within c.known) :
    c.Related Holding.value (nested.evalExpression frame parsed augmentation)
      (nested'.evalExpression (frame.renumber c.number) (parsed.renumber c.number)
        (augmentation.renumber c.number))
  interpolate {frame : Frame} {template augmentation : Value} (hframe : frame.Within c.known)
    (htemplate : template.Within c.known) (haugmentation : augmentation.Within c.known) :
    c.Related Holding.value (nested.interpolate frame template augmentation)
      (nested'.interpolate (frame.renumber c.number) (template.renumber c.number)
        (augmentation.renumber c.number))

end TemplateScript
