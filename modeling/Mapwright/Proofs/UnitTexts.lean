import Mapwright.Proofs.MethodTexts
import Mapwright.Proofs.Pass

/-!
# The texts of generated units

The text of a generated unit ends in the impl of its trait, which has one method
for each required function.  What such a function maps is known from its
signature and from the types that this mentions; the method has the signature,
and the body that is made for it.

    readMapping f = .ok m → planFunction … m = .ok p → p has the text of a method of f      (`print_planFunction`)
    the text of a unit ends in the methods of its plan                                      (`exists_implementation`)
-/

namespace Mapwright

/-- What a function maps, and by which signature: its source, of a described type, to the fields of
its target. -/
structure MappingFunction.Maps (registry : Registry) (f : MappingFunction) (receiver : Receiver)
    (source : Param) (extras : List Param) (sourceType : TypeDescriptor) (target : TypeRef)
    (fields : List Param) : Prop where
  receiver : f.receiver = some receiver
  params : f.params = source :: extras
  returns : f.returns = some target
  sourceType : registry.describe? source.type.name = some sourceType
  fields : (registry.describe? target.name).bind (·.constructor) = some fields

section

variable {registry : Registry} {unit : MappingUnit} {base : Option TypeDescriptor}
  {f : MappingFunction} {m : Mapping} {p : PlannedFunction}

theorem exists_maps_of_planFunction (hm : readMapping f = .ok m)
    (hp : planFunction registry unit base m = .ok p) :
    ∃ receiver source extras sourceType target fields,
      f.Maps registry receiver source extras sourceType target fields ∧
        p.resolved = .resolve unit base f source sourceType target fields := by
  obtain ⟨sourceType, target, fields, hsource, htarget, hfields, -, rfl⟩ :=
    planFunction_eq_ok_iff.1 hp
  obtain ⟨hreceiver, hfirst, hreturns, -, rfl⟩ := readMapping_eq_ok_iff.1 hm
  obtain ⟨receiver, hreceiver⟩ := Option.isSome_iff_exists.1 hreceiver
  obtain ⟨extras, hparams⟩ := List.head?_eq_some_iff.1 hfirst
  refine ⟨receiver, m.source, extras, sourceType, m.target, fields, ?_, rfl⟩
  exact ⟨hreceiver, hparams, hreturns, hsource, by rw [htarget, Option.bind_some, hfields]⟩

/-- **The text of a method.**  It has the signature of its function, of which the source is `mut` if
it is lent for writing. -/
theorem print_planFunction (hm : readMapping f = .ok m)
    (hp : planFunction registry unit base m = .ok p) :
    ∃ receiver source extras sourceType target fields,
      f.Maps registry receiver source extras sourceType target fields ∧
        p.resolved = .resolve unit base f source sourceType target fields ∧
        (Code.method p.resolved).print = Code.methodText (Code.headingText f.name receiver
          (((if Code.lendsForWriting p.resolved then "mut " else "") ++ source.render) ::
            extras.map (·.render)) target) (Code.body p.resolved).print := by
  obtain ⟨receiver, source, extras, sourceType, target, fields, hmaps, hr⟩ :=
    exists_maps_of_planFunction hm hp
  refine ⟨receiver, source, extras, sourceType, target, fields, hmaps, hr, ?_⟩
  rw [Code.print_method, hr]
  exact congrArg (Code.methodText · _) (Code.header_method hmaps.receiver hmaps.params)

end

/-- The text of a generated unit ends in the methods of its plan. -/
theorem Plan.exists_implementation (settings : Settings) (plan : Plan) :
    ∃ start, (plan.generate settings).implementation = start ++ Code.traitPart plan.unit.name
      (plan.generate settings).implName
        (plan.functions.map fun p => (Code.method p.resolved).print) := by
  refine ⟨(Code.storage plan.unit plan.codeBase).print plan.unit.visibility
    (implNameOf settings plan.unit), ?_⟩
  show (plan.implementation settings).print = _
  have hmethods : (plan.implementation settings).methods.map Code.Method.print =
      plan.functions.map fun p => (Code.method p.resolved).print := by
    show (plan.resolved.map Code.method).map Code.Method.print = _
    rw [Plan.resolved, List.map_map, List.map_map]
    rfl
  rw [Code.print_eq_append_traitPart, hmethods]
  rfl

end Mapwright
