import Mapwright.Code.Basic

/-!
# Evaluating generated code

What a generated body computes, in any model of values: a model says what the
fields of a value are and what its methods return.  A reference is the value it
leads to, and a clone equals what it copies.  Names are looked up as identifiers,
so `x` and `r#x` are one name.

    (Expr.clone e).eval? m env = e.eval? m env     (`Expr.eval?_clone`)
-/

namespace Mapwright.Code

variable {V : Type}

/-- What values of type `V` can do. -/
structure Model (V : Type) where
  field : V → String → V
  /-- The result of a method on a value and arguments. -/
  call : V → String → List V → V

/-- The identifier that a name is written for: `r#` before it only says that it is no keyword. -/
def identifier (name : String) : String :=
  match name.toList with
  | 'r' :: '#' :: word => String.ofList word
  | _ => name

/-- The values of identifiers.  The first of two entries of one identifier counts. -/
abbrev Env (V : Type) := List (String × V)

/-- The value of an expression, if it mentions no unknown name. -/
def Expr.eval? (m : Model V) (env : Env V) : Expr → Option V
  | .named x => env.lookup (identifier x)
  | .borrow _ value => value.eval? m env
  | .clone value => value.eval? m env
  | .field owner name => (owner.eval? m env).map (m.field · name)
  | .call owner method => (owner.eval? m env).map (m.call · method [])
  | .callWith owner method argument => do
    let o ← owner.eval? m env
    let a ← argument.eval? m env
    return m.call o method [a]

/-- A clone equals what it copies. -/
@[simp] theorem Expr.eval?_clone (m : Model V) (env : Env V) (e : Expr) :
    (Expr.clone e).eval? m env = e.eval? m env := rfl

/-- A reference is the value it leads to. -/
@[simp] theorem Expr.eval?_borrow (m : Model V) (env : Env V) (mutable : Bool) (e : Expr) :
    (Expr.borrow mutable e).eval? m env = e.eval? m env := rfl

/-- The names after locals were bound, each of which sees those before it. -/
def bindLocals? (m : Model V) (env : Env V) : List Binder → Option (Env V)
  | [] => some env
  | b :: bs => (b.value.eval? m env).bind fun v => bindLocals? m ((identifier b.name, v) :: env) bs

/-- The values of the fields of a literal, which do not see each other. -/
def evalFields? (m : Model V) (env : Env V) (bs : List Binder) : Option (List (String × V)) :=
  bs.mapM fun b => (b.value.eval? m env).map (b.name, ·)

/-- The fields of the struct that a body returns, as far as the literal lists them. -/
def Body.fields? (m : Model V) (env : Env V) (b : Body) : Option (List (String × V)) :=
  (bindLocals? m env b.locals).bind fun env => evalFields? m env b.result.fields

/-- The names that a method sees at first. -/
def Header.env (h : Header) (self : V) (args : List V) : Env V :=
  ("self", self) :: (h.params.map (identifier ·.param.name)).zip args

/-- The fields of the struct that a method returns. -/
def Method.call? (m : Model V) (f : Method) (self : V) (args : List V) : Option (List (String × V)) :=
  f.body.fields? m (f.header.env self args)

/-- The method of an implementation that has the given name. -/
def Implementation.method? (i : Implementation) (name : String) : Option Method :=
  i.methods.find? (·.header.name == name)

/-- The fields of the struct that an extension method returns.  It hands itself and its arguments
to a method of `value`, which is an implementation. -/
def Wrapper.call? (m : Model V) (w : Wrapper) (i : Implementation) (value self : V) (args : List V) :
    Option (List (String × V)) := do
  let args ← w.delegation.args.mapM fun x => (w.header.env self args).lookup (identifier x)
  let f ← i.method? w.delegation.function
  f.call? m value (self :: args)

end Mapwright.Code
