import TemplateScript.Fault
import TemplateScript.Scope

/-!
# Frames

An evaluation runs in a frame, which says what is global, which text is evaluated and where the
scripts live. It also changes a world: it may be cancelled from outside, it makes tables with new
identities, and its host functions have a state of their own. The world keeps its changes when an
evaluation fails.
-/

namespace TemplateScript

structure Frame where
  /-- The global environment, which every evaluation needs. -/
  globals : Option Bindings
  /-- The text that is evaluated, to which faults are attributed. -/
  source : Option String
  /-- The address of the scripts. -/
  location : Option String

namespace Frame

/-- The frame of one more evaluation in the same surroundings. -/
def child (frame : Frame) (source : Option String) : Frame :=
  { frame with source }

def describe (frame : Frame) : String :=
  let shown := match frame.source with
    | some source => quoted source
    | none => "None"
  s!"<Frame source={shown}>"

/-- A fault of an expression that stands at `loc` in the frame's text. -/
def fault (frame : Frame) (why : RuntimeFault) (loc : Option Location) : Fault :=
  .runtime why .error frame.source loc

end Frame

/-- Whether an evaluation was cancelled, and why. -/
abbrev Cancellation := Option String

namespace Cancellation

/-- A cancellation without a reason gives a general one. -/
def ofReason (reason : Option String) : Cancellation :=
  match reason with
  | some reason => some (if reason = "" then "evaluation cancelled" else reason)
  | none => some "evaluation cancelled"

end Cancellation

/-- What evaluations share and change; `σ` is the state of the host. -/
structure World (σ : Type) where
  cancellation : Cancellation
  nextTable : Nat
  host : σ

abbrev Eval (σ : Type) := ExceptT Fault (StateM (World σ))

/-- The host's functions by their keys. -/
abbrev HostFunctions (σ : Type) := String → List Value → Eval σ Value

namespace Eval

variable {σ : Type}

def newTable (slots : Slots) : Eval σ Value := do
  let id ← modifyGet fun world => (world.nextTable, { world with nextTable := world.nextTable + 1 })
  return .table id slots

/-- Ends a cancelled evaluation. -/
def checkCancelled (frame : Frame) : Eval σ Unit := do
  match (← get).cancellation with
  | some reason => throw (.runtime (.cancelled reason) .cancelled frame.source none)
  | none => return ()

def globals (frame : Frame) : Eval σ Bindings :=
  match frame.globals with
  | some globals => pure globals
  | none => throw .noGlobals

def liftTable {α : Type} (result : Except TableFault α) : Eval σ α :=
  match result with
  | .ok a => pure a
  | .error why => throw (.ofTable why)

def liftHost {α : Type} (result : Except HostFault α) : Eval σ α :=
  match result with
  | .ok a => pure a
  | .error why => throw (.host why)

def liftFault {α : Type} (result : Except Fault α) : Eval σ α :=
  match result with
  | .ok a => pure a
  | .error fault => throw fault

end Eval

/-- The name of the whole augmentation in a scope. -/
def augmentationName : String := "_"

/-- Binds the augmentation as a whole and each of its texts among the keys. -/
def bindAugmentation (augmentation : Value) (entries : List (Value × Value)) : Bindings :=
  entries.foldl
    (fun bindings entry =>
      match entry.1 with
      | .str name => bindings.set name entry.2
      | _ => bindings)
    [(augmentationName, augmentation)]

/-- The bindings of a fresh scope inside the global environment. -/
def createScope (frame : Frame) (augmentation : Value) : Except Fault Bindings :=
  match frame.globals, augmentation with
  | none, _ => .error .noGlobals
  | some _, .nil => .ok []
  | some _, .dict entries => .ok (bindAugmentation (.dict entries) entries)
  | some _, .table id entries => .ok (bindAugmentation (.table id entries) entries)
  | some _, other => .error (frame.fault (.augmentation other.typeName) none)

end TemplateScript
