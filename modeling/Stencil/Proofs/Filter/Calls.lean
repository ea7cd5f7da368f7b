import Stencil.Filter.Standard

/-!
# Calls of standard filters

What a filter gives that is found by its name, as it is called on a value.

* `standardCall?_text` — a filter that changes a text
-/

namespace Stencil.Filter

/-- What a call of a standard filter gives, if there is a filter of that name. -/
def standardCall? (name : String) (site : Site) (v : Value) (args : List Value) :
    Option (Except RuntimeError Value) :=
  (Bindings.find? FilterTable.standard name).map fun filter =>
    filter.operation.call name site v args

/-- The filter that is called is the last one of its name. -/
theorem standardCall?_eq (name : String) (site : Site) (v : Value) (args : List Value) :
    standardCall? name site v args =
      (standardOperations.reverse.lookup name).map (·.call name site v args) := by
  have hfind : Bindings.find? FilterTable.standard name =
      (standardOperations.reverse.lookup name).map fun operation => ⟨operation, false⟩ :=
    Bindings.find?_ofList_map (fun operation => (⟨operation, false⟩ : Filter)) _ _
  rw [standardCall?, hfind, Option.map_map]
  rfl

/-- What comes of a text is what it is changed to. -/
theorem standardCall?_text {name : String} {change : List Char → List Char}
    (h : standardOperations.reverse.lookup name = some (.ofText change)) (site : Site)
    (s : String) : standardCall? name site (.string s) [] =
      some (.ok (.string (String.ofList (change s.toList)))) := by
  rw [standardCall?_eq, h]
  rfl

end Stencil.Filter
