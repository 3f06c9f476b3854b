import Trefoil.Binding

/-! # Environments

An environment is a chain of frames, each of which binds one name. Extending an
environment puts a frame in front of it and leaves it as it was. Values and
functions share one space of names, and the frame nearest the front decides.

A function's frame does not store the environment in which its body is evaluated:
that is the chain from the frame on, so the body sees the function itself and all
that was bound before it, and nothing that is bound later.

Two definitions that read the same are still two definitions. The mark on a
function's frame tells them apart: whoever extends an environment gives each
definition a mark of its own. -/

namespace Trefoil

inductive Env where
  | empty
  | bindValue (name : String) (value : Expr) (outer : Env)
  | bindFunction (mark : Nat) (definition : FunctionDef) (outer : Env)
  deriving DecidableEq

/-- What a name stands for. A function carries the environment it was defined in. -/
inductive Entry where
  | value (value : Expr)
  | function (definition : FunctionDef) (scope : Env)
  deriving DecidableEq

namespace Env

def lookup (name : String) : Env → Option Entry
  | empty => none
  | bindValue bound value outer =>
      if bound = name then some (.value value) else outer.lookup name
  | bindFunction mark definition outer =>
      if definition.name = name then
        some (.function definition (bindFunction mark definition outer))
      else outer.lookup name

/-- The bound names, each once, the most recent binding first. -/
def names : Env → List String
  | empty => []
  | bindValue bound _ outer => bound :: outer.names.filter (· ≠ bound)
  | bindFunction _ definition outer =>
      definition.name :: outer.names.filter (· ≠ definition.name)

def size : Env → Nat
  | empty => 0
  | bindValue _ _ outer | bindFunction _ _ outer => outer.size + 1

/-- The two environments bind the same names to the same entries, in whatever
order and over whatever earlier bindings. -/
def agrees (left right : Env) : Bool :=
  (left.names ++ right.names).all fun name => left.lookup name = right.lookup name

def bindsValue (env : Env) (name : String) : Bool :=
  match env.lookup name with
  | some (.value _) => true
  | _ => false

def bindsFunction (env : Env) (name : String) : Bool :=
  match env.lookup name with
  | some (.function _ _) => true
  | _ => false

def hasBlank (env : Env) : Bool :=
  env.names.any fun name =>
    match env.lookup name with
    | some (.function definition _) => definition.body.hasBlank
    | _ => false

end Env

end Trefoil
