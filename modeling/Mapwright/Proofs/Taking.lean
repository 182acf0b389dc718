import Mapwright.Source.Grammar

/-!
# What parsers take

A parser takes tokens off the head of a list and leaves the others as they are.
This holds of the parsers for single tokens and of what is put together from
them.  So it holds of every rule of the grammar if it holds of the rules for
what is nested, and thus of the grammar of any depth.

    p takes, and f a takes for each a → p >>= f takes       (`Takes.bind`, and so for the others)
    the rules for what is nested take → each rule takes     (the instances below)
    the grammar of any depth takes                          (`taking_upTo`)
-/

namespace Mapwright.Source

open Token

namespace Parse

variable {α β : Type}

/-- A parser takes tokens off the head of a list. -/
class Takes (p : Parse α) : Prop where
  suffix : ∀ ts a rest, p.run ts = some (a, rest) → rest <:+ ts

namespace Takes

/-! ## One after the other -/

instance pure (a : α) : Takes (pure a : Parse α) := ⟨by
  intro ts b rest h
  cases h
  exact List.suffix_refl _⟩

instance failure : Takes (failure : Parse α) := ⟨by
  intro ts b rest h
  cases h⟩

instance get : Takes (get : Parse (List Token)) := ⟨by
  intro ts b rest h
  cases h
  exact List.suffix_refl _⟩

instance drop (n : Nat) : Takes (modify (·.drop n) : Parse PUnit) := ⟨by
  intro ts b rest h
  cases h
  exact List.drop_suffix n ts⟩

theorem andThen {p : Parse α} {f : α → Parse β} [hp : Takes p] (hf : ∀ a, Takes (f a)) :
    Takes (p >>= f) := ⟨by
  intro ts b rest h
  rw [StateT.run_bind] at h
  obtain ⟨⟨a, mid⟩, ha, hb⟩ := Option.bind_eq_some_iff.1 h
  exact ((hf a).suffix mid b rest hb).trans (hp.suffix ts a mid ha)⟩

instance bind (p : Parse α) (f : α → Parse β) [hp : Takes p] [hf : ∀ a, Takes (f a)] :
    Takes (p >>= f) := andThen hf

instance ite (c : Prop) [Decidable c] (p q : Parse α) [hp : Takes p] [hq : Takes q] :
    Takes (if c then p else q) := by
  split
  · exact hp
  · exact hq

theorem otherwise {c : Prop} [Decidable c] {p q : Parse α} [hp : Takes p] (hq : Takes q) :
    Takes (if c then p else q) := ite c p q

instance map (f : α → β) (p : Parse α) [hp : Takes p] : Takes (f <$> p) := by
  rw [map_eq_pure_bind]
  infer_instance

instance discard (p : Parse α) [hp : Takes p] : Takes (discard p) := by
  unfold Functor.discard
  rw [LawfulFunctor.map_const]
  exact map _ p

/-! ## Tokens -/

theorem run_token_eq {ts rest : List Token} {t : Token} (h : token.run ts = some (t, rest)) :
    ts = t :: rest := by
  cases ts with
  | nil => cases h
  | cons t ts =>
    cases h
    rfl

instance token : Takes token := ⟨by
  intro ts t rest h
  rw [run_token_eq h]
  exact List.suffix_cons t rest⟩

instance next (test : List Token → Bool) : Takes (next test) := by
  unfold Parse.next
  infer_instance

instance demand (test : List Token → Bool) : Takes (demand test) := by
  unfold Parse.demand
  infer_instance

instance symbol (sym : List Char) : Takes (symbol sym) := by
  unfold Parse.symbol
  infer_instance

instance symbol? (sym : List Char) : Takes (symbol? sym) := by
  unfold Parse.symbol?
  infer_instance

instance keyword (w : String) : Takes (keyword w) := by
  unfold Parse.keyword
  infer_instance

instance keyword? (w : String) : Takes (keyword? w) := by
  unfold Parse.keyword?
  infer_instance

instance word : Takes word := by
  unfold Parse.word
  refine andThen fun t => ?_
  cases t <;> infer_instance

instance name : Takes name := by
  unfold Parse.name
  infer_instance

instance nameOr (ws : List String) : Takes (nameOr ws) := by
  unfold Parse.nameOr
  infer_instance

instance lifetime : Takes lifetime := by
  unfold Parse.lifetime
  refine andThen fun t => ?_
  cases t <;> infer_instance

instance lifetime? : Takes lifetime? := by
  unfold Parse.lifetime?
  infer_instance

/-! ## Groups -/

instance group (d : Delimiter) (p : Parse α) [Takes p] : Takes (group d p) := by
  unfold Parse.group
  refine andThen fun _ => andThen fun _ => andThen fun a => andThen fun t => ?_
  cases t <;> infer_instance

theorem suffix_splitGroup {depth : Nat} {ts body rest : List Token}
    (h : splitGroup depth ts = some (body, rest)) : rest <:+ ts := by
  induction ts generalizing depth body with
  | nil => cases depth <;> cases h
  | cons t ts ih =>
    have hmore : ∀ depth', (splitGroup depth' ts).map (fun r => (t :: r.1, r.2)) =
        some (body, rest) → rest <:+ t :: ts := by
      intro depth' h
      obtain ⟨⟨body', rest'⟩, hrest, heq⟩ := Option.map_eq_some_iff.1 h
      cases heq
      exact (ih hrest).trans (List.suffix_cons t ts)
    cases t with
    | opening d => exact hmore (depth + 1) (by cases depth <;> exact h)
    | closing d =>
      cases depth with
      | zero =>
        cases h
        exact List.suffix_cons _ _
      | succ depth => exact hmore depth h
    | _ => exact hmore depth (by cases depth <;> exact h)

instance anyGroup : Takes anyGroup := ⟨by
  intro ts a rest h
  unfold Parse.anyGroup at h
  rw [StateT.run_bind] at h
  obtain ⟨⟨t, mid⟩, ht, h⟩ := Option.bind_eq_some_iff.1 h
  rw [run_token_eq ht]
  cases t with
  | opening d =>
    dsimp only at h
    rw [StateT.run_bind] at h
    obtain ⟨⟨mid', mid''⟩, hget, h⟩ := Option.bind_eq_some_iff.1 h
    cases hget
    dsimp only at h
    split at h
    · next body after hsplit =>
      cases h
      exact (suffix_splitGroup hsplit).trans (List.suffix_cons _ _)
    · cases h
  | _ => cases h⟩

/-! ## Repetition -/

instance manyUpTo (stop : List Token → Bool) (p : Parse α) [Takes p] (fuel : Nat) :
    Takes (manyUpTo stop p fuel) := by
  induction fuel with
  | zero => exact failure
  | succ fuel ih =>
    unfold Parse.manyUpTo
    infer_instance

instance many (stop : List Token → Bool) (p : Parse α) [Takes p] : Takes (many stop p) := by
  unfold Parse.many
  infer_instance

instance separatedUpTo (stop : List Token → Bool) (sep : List Char) (p : Parse α) [Takes p]
    (fuel : Nat) : Takes (separatedUpTo stop sep p fuel) := by
  induction fuel with
  | zero => exact failure
  | succ fuel ih =>
    unfold Parse.separatedUpTo
    infer_instance

instance separated (stop : List Token → Bool) (sep : List Char) (p : Parse α) [Takes p] :
    Takes (separated stop sep p) := by
  unfold Parse.separated
  infer_instance

instance chainedUpTo (stop : List Token → Bool) (sep : List Char) (p : Parse α) [Takes p]
    (fuel : Nat) : Takes (chainedUpTo stop sep p fuel) := by
  induction fuel with
  | zero => exact failure
  | succ fuel ih =>
    unfold Parse.chainedUpTo
    infer_instance

instance chained (stop : List Token → Bool) (sep : List Char) (p : Parse α) [Takes p] :
    Takes (chained stop sep p) := by
  unfold Parse.chained
  infer_instance

instance commaList (p : Parse α) [hp : Takes p] : Takes (commaList p) := by
  unfold Parse.commaList
  infer_instance

end Takes

end Parse

open Parse

namespace Grammar

/-- The rules for what is nested take tokens off the head of a list. -/
class Taking (g : Grammar) : Prop where
  type : ∀ plus, Takes (g.type plus)
  bound : ∀ captures consts, Takes (g.bound captures consts)
  expr : ∀ braces, Takes (g.expr braces)
  operand : ∀ braces, Takes (g.operand braces)
  trailers : ∀ e, Takes (g.trailers e)
  operators : ∀ braces least left, Takes (g.operators braces least left)
  leading : Takes g.leading
  pattern : Takes g.pattern
  statements : Takes g.statements
  items : Takes g.items

attribute [instance] Taking.type Taking.bound Taking.expr Taking.operand Taking.trailers
  Taking.operators Taking.leading Taking.pattern Taking.statements Taking.items

-- the longest rules are rows of more than twenty steps
set_option synthInstance.maxSize 100000

variable {g : Grammar} [Taking g]

/-! ## Attributes and bodies -/

instance : Takes namePath := by
  unfold namePath
  infer_instance

instance : Takes literal := by
  unfold literal
  refine .andThen fun _ => .andThen fun t => ?_
  split
  · infer_instance
  · infer_instance
  · refine .andThen fun t => ?_
    split <;> infer_instance
  · infer_instance

instance : Takes convention? := by
  unfold convention?
  infer_instance

instance : Takes attributePath := by
  unfold attributePath
  infer_instance

instance : Takes (attributeValue g) := ⟨by
  intro ts u rest h
  unfold attributeValue at h
  rw [StateT.run_bind] at h
  dsimp only [StateT.run_get, Option.pure_def, Option.bind_eq_bind, Option.bind_some] at h
  split at h
  · next found hfound =>
    split at h
    · cases h
      exact Takes.suffix ts _ _ hfound
    · exact Takes.suffix ts _ _ h
  · exact Takes.suffix ts _ _ h⟩

instance : Takes (attributeInput g) := by
  unfold attributeInput
  infer_instance

instance (inner : Bool) : Takes (attributeBody g inner) := by
  unfold attributeBody
  infer_instance

instance : Takes (outerAttribute g) := by
  unfold outerAttribute
  infer_instance

instance : Takes (innerAttribute g) := by
  unfold innerAttribute
  infer_instance

instance : Takes (outerAttributes g) := by
  unfold outerAttributes
  infer_instance

instance : Takes (innerAttributes g) := by
  unfold innerAttributes
  infer_instance

instance : Takes (block g) := by
  unfold block
  infer_instance

instance : Takes (body g) := by
  unfold body
  infer_instance

/-! ## Types, paths and bounds -/

instance : Takes (wholeType g) := by
  unfold wholeType
  infer_instance

instance : Takes (plainType g) := by
  unfold plainType
  infer_instance

instance (plus : Bool) : Takes (output? g plus) := by
  unfold output?
  infer_instance

instance : Takes (constArg g) := by
  unfold constArg
  infer_instance

instance : Takes (genericArg g) := by
  unfold genericArg
  refine .andThen fun isLifetime => .otherwise (.andThen fun isConst => ?_)
  refine .otherwise (.andThen fun type => ?_)
  split <;> infer_instance

instance : Takes (angledArgs g) := by
  unfold angledArgs
  infer_instance

instance : Takes (calledArgs g) := by
  unfold calledArgs
  infer_instance

instance (inExpr : Bool) : Takes (segment g inExpr) := by
  unfold segment
  infer_instance

instance (inExpr : Bool) : Takes (moreSegments g inExpr) := by
  unfold moreSegments
  infer_instance

instance (inExpr : Bool) : Takes (path g inExpr) := by
  unfold path
  infer_instance

instance (inExpr : Bool) : Takes (anyPath g inExpr) := by
  unfold anyPath
  infer_instance

instance (p : Path) : Takes (calledPath g p) := by
  have hfuel : ∀ fuel p, Takes (calledPathUpTo g fuel p) := by
    intro fuel
    induction fuel with
    | zero =>
      intro p
      unfold calledPathUpTo
      infer_instance
    | succ fuel ih =>
      intro p
      unfold calledPathUpTo
      dsimp only
      infer_instance
  unfold calledPath
  infer_instance

instance (unnamed : Bool) : Takes (genericParam g unnamed) := by
  unfold genericParam
  infer_instance

instance (unnamed : Bool) : Takes (angledParams g unnamed) := by
  unfold angledParams
  infer_instance

instance : Takes (generics g) := by
  unfold generics
  infer_instance

instance : Takes (binder? g) := by
  unfold binder?
  infer_instance

instance (consts : Bool) : Takes (traitBound g consts) := by
  unfold traitBound
  infer_instance

instance : Takes captureList := by
  unfold captureList
  infer_instance

instance (captures consts : Bool) : Takes (boundRule g captures consts) := by
  unfold boundRule
  infer_instance

instance (captures consts : Bool) : Takes (moreBounds g captures consts) := by
  unfold moreBounds
  infer_instance

instance (plus captures consts : Bool) : Takes (bounds g plus captures consts) := by
  unfold bounds
  infer_instance

instance (plus captures consts : Bool) : Takes (traitBounds g plus captures consts) := by
  unfold traitBounds
  infer_instance

instance : Takes (addedBounds g) := by
  unfold addedBounds
  infer_instance

instance (first : Bool) : Takes (pointerParam g first) := by
  unfold pointerParam
  infer_instance

instance : Takes (pointerParams g) := by
  unfold pointerParams
  infer_instance

instance (binder : Bool) : Takes (functionPointer g binder) := by
  unfold functionPointer
  infer_instance

instance (plus binder : Bool) : Takes (pathType g plus binder) := by
  unfold pathType
  infer_instance

instance : Takes (enclosed g) := by
  unfold enclosed
  infer_instance

instance (plus : Bool) : Takes (parenType g plus) := by
  unfold parenType
  refine .andThen fun e => ?_
  split
  · infer_instance
  · refine .andThen fun more => ?_
    split <;> infer_instance
  · infer_instance
  · infer_instance

instance : Takes (bracketType g) := by
  unfold bracketType
  infer_instance

instance : Takes (pointerType g) := by
  unfold pointerType
  infer_instance

instance : Takes (referenceType g) := by
  unfold referenceType
  infer_instance

instance (plus : Bool) : Takes (dynType g plus) := by
  unfold dynType
  infer_instance

instance (plus : Bool) : Takes (implType g plus) := by
  unfold implType
  infer_instance

instance (plus : Bool) : Takes (typeRule g plus) := by
  unfold typeRule
  infer_instance

instance : Takes (wherePredicate g) := by
  unfold wherePredicate
  infer_instance

instance : Takes (whereClause? g) := by
  unfold whereClause?
  infer_instance

/-! ## Patterns -/

instance : Takes rangeLimits := by
  unfold rangeLimits
  infer_instance

instance : Takes (alternatives g) := by
  unfold alternatives
  infer_instance

instance : Takes (rangeBound? g) := by
  unfold rangeBound?
  infer_instance

instance : Takes (rangeRest g) := by
  unfold rangeRest
  infer_instance

instance : Takes member := by
  unfold member
  refine .andThen fun t => ?_
  split <;> infer_instance

instance : Takes (fieldPattern g) := by
  unfold fieldPattern
  infer_instance

instance : Takes (fieldPatterns g) := by
  have hfuel : ∀ fuel, Takes (fieldPatternsUpTo g fuel) := by
    intro fuel
    induction fuel with
    | zero =>
      unfold fieldPatternsUpTo
      infer_instance
    | succ fuel ih =>
      unfold fieldPatternsUpTo
      infer_instance
  unfold fieldPatterns
  infer_instance

instance : Takes (pathPattern g) := by
  unfold pathPattern
  infer_instance

instance : Takes (constPattern g) := by
  unfold constPattern
  infer_instance

instance : Takes (namePattern g) := by
  unfold namePattern
  infer_instance

instance : Takes (slicePattern g) := by
  unfold slicePattern
  infer_instance

instance : Takes (dotsPattern g) := by
  unfold dotsPattern
  infer_instance

instance : Takes (patternRule g) := by
  unfold patternRule
  infer_instance

/-! ## Expressions -/

instance (braces : Bool) (precedence : Nat) : Takes (rightOperand g braces precedence) := by
  unfold rightOperand
  infer_instance

instance (braces : Bool) : Takes (rangeExpr g braces) := by
  unfold rangeExpr
  infer_instance

instance (braces : Bool) (least : Nat) (left : ExprForm) :
    Takes (operatorsRule g braces least left) := by
  unfold operatorsRule
  refine .otherwise (.andThen fun ts => ?_)
  split <;> infer_instance

instance : Takes (callArgs g) := by
  unfold callArgs
  infer_instance

instance : Takes fieldNumbers := by
  unfold fieldNumbers
  refine .andThen fun t => ?_
  split
  · split <;> infer_instance
  · infer_instance

instance : Takes (memberExpr g) := by
  unfold memberExpr
  infer_instance

instance (e : ExprForm) : Takes (trailersRule g e) := by
  unfold trailersRule
  infer_instance

instance : Takes (matchArm g) := by
  unfold matchArm
  infer_instance

instance (fuel : Nat) : Takes (branchesUpTo g fuel) := by
  induction fuel with
  | zero =>
    unfold branchesUpTo
    infer_instance
  | succ fuel ih =>
    unfold branchesUpTo
    infer_instance

instance : Takes (blockExpr g) := by
  unfold blockExpr
  dsimp only
  infer_instance

instance : Takes (labelled g) := by
  unfold labelled
  infer_instance

instance : Takes (closureParam g) := by
  unfold closureParam
  infer_instance

instance (braces : Bool) : Takes (closure g braces) := by
  have hloop : ∀ ws : List String, Takes (forIn ws PUnit.unit fun w _ => do
      discard (keyword? w)
      return ForInStep.yield PUnit.unit : Parse PUnit) := by
    intro ws
    induction ws with
    | nil => exact Takes.pure _
    | cons w ws ih =>
      rw [List.forIn_cons]
      refine .andThen fun r => ?_
      split <;> infer_instance
  unfold closure
  infer_instance

instance (fuel : Nat) : Takes (structFieldsUpTo g fuel) := by
  induction fuel with
  | zero =>
    unfold structFieldsUpTo
    infer_instance
  | succ fuel ih =>
    unfold structFieldsUpTo
    dsimp only
    infer_instance

instance (braces : Bool) : Takes (pathExpr g braces) := by
  unfold pathExpr
  dsimp only
  infer_instance

instance : Takes (bracketExpr g) := by
  unfold bracketExpr
  infer_instance

instance (braces : Bool) : Takes (letExpr g braces) := by
  unfold letExpr
  infer_instance

instance (braces : Bool) : Takes (breakExpr g braces) := by
  unfold breakExpr
  infer_instance

instance (braces : Bool) : Takes (atom g braces) := by
  unfold atom
  iterate 8 refine .andThen fun _ => .otherwise ?_
  infer_instance

instance : Takes referenceMark := by
  unfold referenceMark
  infer_instance

instance (braces : Bool) : Takes (operandRule g braces) := by
  unfold operandRule
  infer_instance

instance (braces : Bool) : Takes (exprRule g braces) := by
  unfold exprRule
  infer_instance

instance : Takes (leadingRule g) := by
  unfold leadingRule
  infer_instance

/-! ## Items -/

instance : Takes visibility := by
  unfold visibility
  refine .andThen fun isPub => @Takes.ite _ _ _ _ _ (.andThen fun ts => ?_) inferInstance
  split <;> infer_instance

instance : Takes (selfParam g) := by
  unfold selfParam
  infer_instance

instance : Takes (anyParam g) := by
  have hself : Takes (do
      match StateT.run (selfParam g) (← get) with
      | some (s, rest) =>
        set rest
        return .self s
      | none =>
        if ← next (fun ts => startsName ts && startsWith ['<'] (afterTree ts)) then
          return .typed ⟨none, ← wholeType g⟩
        else
          let pattern ← g.pattern
          symbol [':']
          if ← symbol? ['.', '.', '.'] then return .variadic
          else return .typed ⟨PatternForm.name? pattern, ← wholeType g⟩ : Parse AnyParam) := ⟨by
    intro ts p rest h
    rw [StateT.run_bind] at h
    dsimp only [StateT.run_get, Option.pure_def, Option.bind_eq_bind, Option.bind_some] at h
    split at h
    · next found hfound =>
      cases h
      exact Takes.suffix ts _ _ hfound
    · exact Takes.suffix ts _ _ h⟩
  unfold anyParam
  infer_instance

instance : Takes (params g) := by
  unfold params
  infer_instance

instance (safe : Bool) : Takes (signature g safe) := by
  unfold signature
  infer_instance

instance : Takes (body? g) := by
  unfold body?
  infer_instance

instance (fuel : Nat) : Takes (namedFieldUpTo g fuel) := by
  induction fuel with
  | zero =>
    unfold namedFieldUpTo
    infer_instance
  | succ fuel ih =>
    unfold namedFieldUpTo
    infer_instance

instance : Takes (namedFields g) := by
  unfold namedFields
  infer_instance

instance : Takes (positionalField g) := by
  unfold positionalField
  infer_instance

instance : Takes (positionalFields g) := by
  unfold positionalFields
  infer_instance

instance : Takes (structItem g) := by
  unfold structItem
  infer_instance

instance : Takes (variant g) := by
  unfold variant
  infer_instance

instance : Takes (enumItem g) := by
  unfold enumItem
  infer_instance

instance : Takes (unionItem g) := by
  unfold unionItem
  infer_instance

instance (untyped : Bool) : Takes (constRest g untyped) := by
  unfold constRest
  infer_instance

instance (untyped : Bool) : Takes (constItem g untyped) := by
  unfold constItem
  infer_instance

instance (untyped : Bool) : Takes (staticItem g untyped) := by
  unfold staticItem
  infer_instance

instance (stop : List Token → Bool) : Takes (boundsUntil g stop) := by
  unfold boundsUntil
  infer_instance

instance (early late : Bool) : Takes (typeItem g early late) := by
  unfold typeItem
  infer_instance

instance (named : Bool) : Takes (macroItem named) := by
  unfold macroItem
  infer_instance

instance : Takes macroDefinition := by
  unfold macroDefinition
  infer_instance

instance : Takes (traitMember g) := by
  unfold traitMember
  infer_instance

instance (outer : List Attribute) (vis : Visibility) : Takes (traitItem g outer vis) := by
  unfold traitItem
  infer_instance

instance : Takes (implMember g) := by
  unfold implMember
  infer_instance

instance : Takes (implBody g) := by
  unfold implBody
  infer_instance

instance (vis : Visibility) : Takes (implItem g vis) := by
  unfold implItem
  infer_instance

instance (fuel : Nat) (rooted : Bool) : Takes (useTreeUpTo fuel rooted) := by
  induction fuel generalizing rooted with
  | zero =>
    unfold useTreeUpTo
    infer_instance
  | succ fuel ih =>
    unfold useTreeUpTo
    dsimp only
    infer_instance

instance : Takes useItem := by
  unfold useItem
  infer_instance

instance : Takes externCrate := by
  unfold externCrate
  infer_instance

instance : Takes (foreignMember g) := by
  unfold foreignMember
  infer_instance

instance : Takes (foreignModule g) := by
  unfold foreignModule
  infer_instance

instance : Takes (moduleItem g) := by
  unfold moduleItem
  infer_instance

instance (outer : List Attribute) : Takes (itemRest g outer) := by
  unfold itemRest
  refine .andThen fun vis => ?_
  iterate 9 refine .andThen fun _ => .otherwise ?_
  refine .andThen fun _ => @Takes.ite _ _ _ _ _ (.andThen fun r => ?_) inferInstance
  split <;> infer_instance

instance : Takes (item g) := by
  unfold item
  infer_instance

instance : Takes (itemsRule g) := by
  unfold itemsRule
  infer_instance

/-! ## Statements -/

instance : Takes (letStatement g) := by
  unfold letStatement
  infer_instance

instance : Takes (statement g) := by
  unfold statement
  infer_instance

instance (fuel : Nat) : Takes (statementsUpTo g fuel) := by
  induction fuel with
  | zero =>
    unfold statementsUpTo
    infer_instance
  | succ fuel ih =>
    unfold statementsUpTo
    infer_instance

instance : Takes (statementsRule g) := by
  unfold statementsRule
  infer_instance

/-! ## Any depth -/

/-- Rules that nest nothing give nothing. -/
theorem taking_flat : Taking flat where
  type _ := .failure
  bound _ _ := .failure
  expr _ := .failure
  operand _ := .failure
  trailers _ := .failure
  operators _ _ _ := .failure
  leading := .failure
  pattern := .failure
  statements := .failure
  items := .failure

theorem taking_deepen (g : Grammar) [Taking g] : Taking (deepen g) where
  type plus := inferInstanceAs (Takes (typeRule g plus))
  bound captures consts := inferInstanceAs (Takes (boundRule g captures consts))
  expr braces := inferInstanceAs (Takes (exprRule g braces))
  operand braces := inferInstanceAs (Takes (operandRule g braces))
  trailers e := inferInstanceAs (Takes (trailersRule g e))
  operators braces least left := inferInstanceAs (Takes (operatorsRule g braces least left))
  leading := inferInstanceAs (Takes (leadingRule g))
  pattern := inferInstanceAs (Takes (patternRule g))
  statements := inferInstanceAs (Takes (statementsRule g))
  items := inferInstanceAs (Takes (itemsRule g))

/-- **The grammar of any depth takes tokens off the head.** -/
instance taking_upTo (depth : Nat) : Taking (upTo depth) := by
  induction depth with
  | zero => exact taking_flat
  | succ depth ih => exact taking_deepen (upTo depth)

instance taking_ofTokens (ts : List Token) : Taking (ofTokens ts) :=
  inferInstanceAs (Taking (upTo (ts.length + 1)))

end Grammar

end Mapwright.Source
