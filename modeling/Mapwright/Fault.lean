import Mapwright.Resolution

/-!
# Diagnostics, rejections and failures

Three kinds of trouble.  A diagnostic notes a target field without an origin.
A rejection keeps one unit from being generated.  A failure ends a whole pass
or a step of it.  Each says what happened, and one function gives its wording.
-/

namespace Mapwright

/-! ## Diagnostics -/

/-- A target field that nothing provides a value for. -/
structure Diagnostic where
  unit : String
  function : String
  target : String
  parameter : String
deriving DecidableEq, Repr

def Diagnostic.message (d : Diagnostic) : String :=
  "`" ++ d.unit ++ "::" ++ d.function ++ "`: no source for `" ++ d.target ++ "." ++ d.parameter ++
    "`; the field falls back to `Default::default()`"

/-- One diagnostic for each field that takes its default. -/
def ResolvedFunction.diagnostics (r : ResolvedFunction) (unit : String) : List Diagnostic :=
  r.unresolved.map fun f => ⟨unit, r.function.name, r.target.name, f.param.name⟩

/-! ## Rejections -/

/-- What is wrong with the signature of a mapping function or trait. -/
inductive SignatureFault
  | functionPointer
  | qualifiedPath
  | inferredType
  | unspelledType
  | unspelledArgument
  | unspelledBound
  | otherConstant
  | computedConstant
  | typedReceiver
  | parameterPattern
  | genericTrait
  | genericFunction
  /-- The target is returned by reference, spelled as given. -/
  | returnsReference (target : String)
  /-- A fault in a caller's own words. -/
  | stated (words : String)
deriving DecidableEq, Repr

def SignatureFault.message : SignatureFault → String
  | .functionPointer => "`unsafe`, `extern` or higher-ranked fn pointers"
  | .qualifiedPath => "qualified `<T as Trait>` paths"
  | .inferredType => "inferred `_` types"
  | .unspelledType => "macro or verbatim types"
  | .unspelledArgument => "unknown generic argument"
  | .unspelledBound => "unknown trait bound"
  | .otherConstant => "non-integer constant"
  | .computedConstant => "computed constant expressions"
  | .typedReceiver => "typed `self` receivers"
  | .parameterPattern => "parameter patterns other than plain identifiers"
  | .genericTrait => "generic mapping traits"
  | .genericFunction => "generic parameters"
  | .returnsReference target => "returns a reference `" ++ target ++ "`"
  | .stated words => words

/-- What is wrong with the arguments of a marker attribute. -/
inductive ArgumentFault
  /-- The attribute, spelled as given, has a value and no argument list. -/
  | noParentheses (written : String)
  | unknownArgument
  | literalArgument
  | tokenArgument
  | expectedArgument
  | expectedIdent (atEnd : Bool)
  | expectedEquals
  | expectedComma
  | expectedBoolean (atEnd : Bool)
  | expectedIdentifier (atEnd : Bool)
  | foundKeyword (word : String)
  /-- A fault in a caller's own words. -/
  | stated (words : String)
deriving DecidableEq, Repr

/-- What was expected, and that the end came in its place if it did. -/
def expected (what : String) (atEnd : Bool) : String :=
  if atEnd then "unexpected end of input, expected " ++ what else "expected " ++ what

def ArgumentFault.message : ArgumentFault → String
  | .noParentheses written => "expected parentheses: " ++ written
  | .unknownArgument => "expected `generate_wrapper`, `base` or `impl_name`"
  | .literalArgument => "unexpected literal in nested attribute, expected ident"
  | .tokenArgument => "unexpected token in nested attribute, expected ident"
  | .expectedArgument => expected "nested attribute" true
  | .expectedIdent atEnd => expected "ident" atEnd
  | .expectedEquals => "expected `=`"
  | .expectedComma => "expected `,`"
  | .expectedBoolean atEnd => expected "boolean literal" atEnd
  | .expectedIdentifier atEnd => expected "identifier" atEnd
  | .foundKeyword word => "expected identifier, found keyword `" ++ word ++ "`"
  | .stated words => words

/-- Why a unit is not generated. -/
inductive Rejection
  | missingBase (base : String)
  | baseWithoutConstructor (base : String)
  | missingReceiver (function : String)
  | noParameters (function : String)
  | noReturnType (function : String)
  | targetWithoutConstructor (function : String) (target : String)
  | unsupportedSignature (function : String) (fault : SignatureFault)
  | sharedSourceToMutSibling (function : String) (sibling : String)
  | invalidArguments (fault : ArgumentFault)
  | unresolved (diagnostics : List Diagnostic)
deriving DecidableEq, Repr

def Rejection.message : Rejection → String
  | .missingBase base => "base `" ++ base ++ "` is not a known type"
  | .baseWithoutConstructor base => "base `" ++ base ++ "` has no named fields to construct it from"
  | .missingReceiver function => "`" ++ function ++ "` must take `self`"
  | .noParameters function => "`" ++ function ++ "` has no source parameter"
  | .noReturnType function => "`" ++ function ++ "` has no return type"
  | .targetWithoutConstructor function target =>
    "`" ++ function ++ "` returns `" ++ target ++ "`, which has no named fields to construct it from"
  | .unsupportedSignature function fault =>
    "`" ++ function ++ "` uses a type that cannot be represented: " ++ fault.message
  | .sharedSourceToMutSibling function sibling =>
    "`" ++ function ++ "` borrows its source as `&`, but sibling `" ++ sibling ++ "` takes it as `&mut`"
  | .invalidArguments fault => "invalid `#[mapper]` arguments: " ++ fault.message
  | .unresolved diagnostics => diagnostics.length.repr ++ " target field(s) have no source"

/-- A unit that is not generated, and why. -/
structure RejectedUnit where
  unit : String
  reason : Rejection
deriving DecidableEq, Repr

def RejectedUnit.message (r : RejectedUnit) : String :=
  "mapping unit `" ++ r.unit ++ "` is malformed: " ++ r.reason.message

/-! ## Failures -/

/-- What ends a pass, the reading of a source or the writing of its results. -/
inductive Failure
  /-- A file or directory could not be read or written. -/
  | io (path : String)
  /-- A writer took less than it was given. -/
  | write
  /-- A source is not well formed. -/
  | parse (module : ModuleId)
  /-- A function refers to a type that nothing describes. -/
  | missingType (unit : String) (function : String) (type : String)
deriving DecidableEq, Repr

def Failure.message : Failure → String
  | .io path => "I/O error on `" ++ path ++ "`"
  | .write => "failed to write generated code"
  | .parse module => "failed to parse `" ++ module ++ "`: "
  | .missingType unit function type =>
    "`" ++ unit ++ "::" ++ function ++ "` refers to `" ++ type ++ "`, which has no type descriptor"

end Mapwright
