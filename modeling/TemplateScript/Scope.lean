import TemplateScript.Fault
import TemplateScript.Text.Quoted

/-!
# Scopes

A scope binds names and may have an outer scope. A look-up goes outward and stops at the first
scope that binds the name. An assignment changes the binding that a look-up finds, and binds the
name in its own scope where there is none.
-/

namespace TemplateScript

/-- Names with their values, in the order in which they were first bound. -/
abbrev Bindings := List (String × Value)

namespace Bindings

def get? (bindings : Bindings) (name : String) : Option Value :=
  List.lookup name bindings

def set (name : String) (value : Value) : Bindings → Bindings
  | [] => [(name, value)]
  | binding :: rest =>
    if binding.1 = name then (name, value) :: rest else binding :: set name value rest

def names (bindings : Bindings) : List String := bindings.map (·.1)

end Bindings

/-- The scopes that a look-up goes through, innermost first. -/
abbrev ScopeChain := List Bindings

namespace ScopeChain

def get? (chain : ScopeChain) (name : String) : Option Value :=
  chain.findSome? fun bindings => bindings.get? name

end ScopeChain

/-- A scope inside the scope of an earlier number, or inside none. -/
structure Scope where
  outer : Option Nat
  bindings : Bindings

/-- Scopes numbered in the order of their creation. -/
structure Scopes where
  all : List Scope

namespace Scopes

def empty : Scopes := ⟨[]⟩

/-- Adds a scope without bindings. -/
def add (scopes : Scopes) (outer : Option Nat) : Scopes :=
  ⟨scopes.all ++ [⟨outer, []⟩]⟩

/-- The numbers of a scope and the scopes around it, at most `limit` of them. -/
def outwardUpTo (scopes : Scopes) : Nat → Nat → List Nat
  | 0, _ => []
  | limit + 1, number =>
    match scopes.all[number]? with
    | none => []
    | some scope =>
      number :: match scope.outer with
        | some outer => outwardUpTo scopes limit outer
        | none => []

/-- The numbers of a scope and the scopes around it, innermost first. -/
def outward (scopes : Scopes) (number : Nat) : List Nat :=
  scopes.outwardUpTo scopes.all.length number

def bindingsOf (scopes : Scopes) (number : Nat) : Bindings :=
  ((scopes.all[number]?).map Scope.bindings).getD []

/-- The nearest scope from one outward that binds a name. -/
def owner? (scopes : Scopes) (number : Nat) (name : String) : Option Nat :=
  (scopes.outward number).find? fun n => ((scopes.bindingsOf n).get? name).isSome

def get? (scopes : Scopes) (number : Nat) (name : String) : Option Value :=
  (scopes.owner? number name).bind fun n => (scopes.bindingsOf n).get? name

/-- The value of a name, or another value where no scope binds the name. -/
def getD (scopes : Scopes) (number : Nat) (name : String) (default : Value) : Value :=
  (scopes.get? number name).getD default

/-- The value of a name that some scope has to bind. -/
def get (scopes : Scopes) (number : Nat) (name : String) : Except HostFault Value :=
  match scopes.get? number name with
  | some value => .ok value
  | none => .error (.missingKey (quoted name))

def has (scopes : Scopes) (number : Nat) (name : String) : Bool :=
  (scopes.owner? number name).isSome

/-- Whether a value is a name that some scope binds; only texts are names. -/
def contains (scopes : Scopes) (number : Nat) : Value → Bool
  | .str name => scopes.has number name
  | _ => false

/-- Binds a name in one scope. -/
def setLocal (scopes : Scopes) (number : Nat) (name : String) (value : Value) : Scopes :=
  ⟨scopes.all.modify number fun scope => { scope with bindings := scope.bindings.set name value }⟩

/-- Changes the binding that a look-up from a scope finds, or binds the name there. -/
def set (scopes : Scopes) (number : Nat) (name : String) (value : Value) : Scopes :=
  scopes.setLocal ((scopes.owner? number name).getD number) name value

/-- The number of scopes around one. -/
def depth (scopes : Scopes) (number : Nat) : Nat :=
  (scopes.outward number).length - 1

end Scopes

/-- The names of bindings in order of their characters, and how many scopes are around them. -/
def describeScope (bindings : Bindings) (depth : Nat) : String :=
  let names := bindings.names.mergeSort fun a b => decide (a ≤ b)
  let shown := ", ".intercalate (names.map quoted)
  s!"<Env names=[{shown}] depth={depth}>"

end TemplateScript
