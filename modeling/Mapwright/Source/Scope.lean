import Mapwright.NameMap
import Mapwright.Source.Item

/-!
# Scopes

The names that imports and aliases bind, and the full paths they stand for.  A
nested module sees what is bound around it, unless it binds a name anew.
-/

namespace Mapwright.Source

/-! ## Imports -/

mutual

/-- The names that a tree of imports binds below a path, with their full paths. -/
def UseTree.bindings (path : List String) : UseTree → List (String × List String)
  | .path name rest => rest.bindings (path ++ [name])
  | .name name => [(name, path ++ [name])]
  | .rename name alias_ => [(alias_, path ++ [name])]
  | .glob => []
  | .group trees => bindingsOfTrees path trees

def bindingsOfTrees (path : List String) : List UseTree → List (String × List String)
  | [] => []
  | t :: ts => t.bindings path ++ bindingsOfTrees path ts

end

/-- The path that a type spells, if it is one. -/
def TypeExpr.path? : TypeExpr → Option Path
  | .path p => some p
  | .qualified p => some p
  | _ => none

/-- The names that an item binds.  An alias counts if it stands for a path of several names. -/
def Item.bindings : Item → List (String × List String)
  | .use tree => tree.bindings []
  | .alias name type =>
    match type.path? with
    | some p => if p.names.length ≤ 1 then [] else [(name, p.names)]
    | none => []
  | _ => []

/-! ## Scopes -/

/-- What names stand for. -/
abbrev Scope := NameMap (List String)

namespace Scope

/-- The scope inside some items: what they bind goes before what is bound around them. -/
def within (outer : Scope) (items : List Item) : Scope :=
  outer.insertAll (items.flatMap Item.bindings)

/-- The scope of a file. -/
def ofItems (items : List Item) : Scope := within NameMap.empty items

/-- The name under which the type at a path is described: the last one of the path, or of what a
single name stands for. -/
def typeName (scope : Scope) (names : List String) : String :=
  match names with
  | [name] => ((scope.find? name).bind (·.getLast?)).getD name
  | names => names.getLast?.getD ""

end Scope

end Mapwright.Source
