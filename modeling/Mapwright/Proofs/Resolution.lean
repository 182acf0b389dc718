import Mapwright.Resolution

/-!
# Which table a binding comes from

`resolve_cases` reads the resolution of a field as five cases, one for each
table and one for none; each kind of binding is then characterized by the table
that has the name of the field and by those before it that do not.

    resolve … name = .parameter x  ↔  x = name, a parameter is called so        (`resolve_eq_parameter_iff`)
    resolve … name = .sibling g p  ↔  g = name, no parameter is, a sibling is   (`resolve_eq_sibling_iff`)
    resolve … name = .accessor m   ↔  …                                         (`resolve_eq_accessor_iff`)
    resolve … name = .property x   ↔  …                                         (`resolve_eq_property_iff`)
-/

namespace Mapwright

namespace Binding

variable (unit : MappingUnit) (base : Option TypeDescriptor) (current : MappingFunction)
  (source : TypeDescriptor) (name : String)

theorem resolve_cases :
    (name ∈ current.params.map (·.name) ∧
      resolve unit base current source name = .parameter name) ∨
    (name ∉ current.params.map (·.name) ∧
      ((∃ pass, siblingPassing unit base current name = some pass ∧
          resolve unit base current source name = .sibling name pass) ∨
        (siblingPassing unit base current name = none ∧
          ((source.accessor? name).isSome = true ∧
              resolve unit base current source name = .accessor name ∨
            (source.accessor? name).isSome = false ∧
              ((source.property? name).isSome = true ∧
                  resolve unit base current source name = .property name ∨
                (source.property? name).isSome = false ∧
                  resolve unit base current source name = .unresolved))))) := by
  have hany : current.params.any (·.name == name) = true ↔ name ∈ current.params.map (·.name) := by
    simp [List.any_eq_true]
  unfold resolve
  by_cases hp : name ∈ current.params.map (·.name)
  · rw [if_pos (hany.2 hp)]
    exact Or.inl ⟨hp, rfl⟩
  · rw [if_neg (fun h => hp (hany.1 h))]
    refine Or.inr ⟨hp, ?_⟩
    cases hs : siblingPassing unit base current name with
    | some pass => exact Or.inl ⟨pass, rfl, rfl⟩
    | none =>
      refine Or.inr ⟨rfl, ?_⟩
      cases ha : (source.accessor? name).isSome
      · cases hx : (source.property? name).isSome <;> simp
      · simp

theorem resolve_eq_parameter_iff (x : String) :
    resolve unit base current source name = .parameter x ↔
      x = name ∧ name ∈ current.params.map (·.name) := by
  rcases resolve_cases unit base current source name with
    ⟨hp, hr⟩ | ⟨hp, ⟨pass, -, hr⟩ | ⟨-, ⟨-, hr⟩ | ⟨-, ⟨-, hr⟩ | ⟨-, hr⟩⟩⟩⟩
  · rw [hr]; simp only [Binding.parameter.injEq, hp, and_true, eq_comm]
  all_goals rw [hr]; simp only [hp, and_false, reduceCtorEq]

theorem resolve_eq_sibling_iff (g : String) (pass : Option Passing) :
    resolve unit base current source name = .sibling g pass ↔
      g = name ∧ name ∉ current.params.map (·.name) ∧
        siblingPassing unit base current name = some pass := by
  rcases resolve_cases unit base current source name with
    ⟨hp, hr⟩ | ⟨hp, ⟨pass', hs, hr⟩ | ⟨hs, ⟨-, hr⟩ | ⟨-, ⟨-, hr⟩ | ⟨-, hr⟩⟩⟩⟩
  · rw [hr]; simp only [hp, not_true_eq_false, false_and, and_false, reduceCtorEq]
  · rw [hr, hs]
    simp only [Binding.sibling.injEq, Option.some.injEq, hp, not_false_eq_true, true_and]
    exact and_congr_left' eq_comm
  all_goals rw [hr, hs]; simp only [reduceCtorEq, and_false]

theorem resolve_eq_accessor_iff (m : String) :
    resolve unit base current source name = .accessor m ↔
      m = name ∧ name ∉ current.params.map (·.name) ∧
        siblingPassing unit base current name = none ∧ (source.accessor? name).isSome = true := by
  rcases resolve_cases unit base current source name with
    ⟨hp, hr⟩ | ⟨hp, ⟨pass, hs, hr⟩ | ⟨hs, ⟨ha, hr⟩ | ⟨ha, ⟨-, hr⟩ | ⟨-, hr⟩⟩⟩⟩
  · rw [hr]; simp only [hp, not_true_eq_false, false_and, and_false, reduceCtorEq]
  · rw [hr, hs]; simp only [reduceCtorEq, false_and, and_false]
  · rw [hr, hs, ha]
    simp only [Binding.accessor.injEq, hp, not_false_eq_true, and_self, and_true, eq_comm]
  all_goals rw [hr, ha]; simp only [reduceCtorEq, Bool.false_eq_true, and_false]

theorem resolve_eq_property_iff (x : String) :
    resolve unit base current source name = .property x ↔
      x = name ∧ name ∉ current.params.map (·.name) ∧
        siblingPassing unit base current name = none ∧ (source.accessor? name).isSome = false ∧
        (source.property? name).isSome = true := by
  rcases resolve_cases unit base current source name with
    ⟨hp, hr⟩ | ⟨hp, ⟨pass, hs, hr⟩ | ⟨hs, ⟨ha, hr⟩ | ⟨ha, ⟨hx, hr⟩ | ⟨hx, hr⟩⟩⟩⟩
  · rw [hr]; simp only [hp, not_true_eq_false, false_and, and_false, reduceCtorEq]
  · rw [hr, hs]; simp only [reduceCtorEq, false_and, and_false]
  · rw [hr, ha]; simp only [reduceCtorEq, Bool.true_eq_false, false_and, and_false]
  · rw [hr, hs, ha, hx]
    simp only [Binding.property.injEq, hp, not_false_eq_true, and_self, and_true, eq_comm]
  · rw [hr, hx]; simp only [reduceCtorEq, Bool.false_eq_true, and_false]

/-- A binding does not depend on more than the members of that name. -/
theorem resolve_congr {base' : Option TypeDescriptor} {source' : TypeDescriptor}
    (hbase : name ∉ current.params.map (·.name) →
      base.bind (·.method? name) = base'.bind (·.method? name))
    (hmethod : name ∉ current.params.map (·.name) → source.method? name = source'.method? name)
    (hproperty : source.property? name = source'.property? name) :
    resolve unit base current source name = resolve unit base' current source' name := by
  unfold resolve
  split
  · rfl
  · next hany =>
    have hp : name ∉ current.params.map (·.name) := by
      intro h
      obtain ⟨p, hp, rfl⟩ := List.mem_map.1 h
      exact hany (List.any_eq_true.2 ⟨p, hp, beq_self_eq_true _⟩)
    rw [siblingPassing, siblingPassing, hbase hp, TypeDescriptor.accessor?,
      TypeDescriptor.accessor?, hmethod hp, hproperty]

end Binding

namespace ResolvedFunction

variable (unit : MappingUnit) (base : Option TypeDescriptor) (f : MappingFunction) (source : Param)
  (sourceType : TypeDescriptor) (target : TypeRef) (fields : List Param)

theorem mem_fields_resolve (field : ResolvedField) :
    field ∈ (resolve unit base f source sourceType target fields).fields ↔
      field.param ∈ fields ∧
        field.binding = Binding.resolve unit base f sourceType field.param.name := by
  simp only [resolve, List.mem_map]
  constructor
  · rintro ⟨p, hp, rfl⟩
    exact ⟨hp, rfl⟩
  · rintro ⟨hp, hb⟩
    exact ⟨field.param, hp, by rw [← hb]⟩

theorem resolve_congr {base' : Option TypeDescriptor} {sourceType' : TypeDescriptor}
    (h : ∀ p ∈ fields, Binding.resolve unit base f sourceType p.name =
      Binding.resolve unit base' f sourceType' p.name) :
    resolve unit base f source sourceType target fields =
      resolve unit base' f source sourceType' target fields := by
  unfold resolve
  congr 1
  refine List.map_congr_left fun p hp => ?_
  rw [h p hp]

theorem names_fields_resolve :
    (resolve unit base f source sourceType target fields).fields.map (·.param.name) =
      fields.map (·.name) := by
  simp only [resolve, List.map_map]
  rfl

end ResolvedFunction

end Mapwright
