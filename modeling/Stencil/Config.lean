import Stencil.Filter.Standard
import Stencil.Storage.Partials
import Stencil.Template.Tag

/-!
# Configurations

Everything a template consults beside its source and its data.
-/

namespace Stencil

/-- What a template consults. -/
structure Config where
  tags : Template.TagTable
  filters : FilterTable
  settings : Settings
  /-- Where partials come from. -/
  storage : Storage.Source
  /-- What the objects of the host answer, by name and key. -/
  host : String → String → Option Value

namespace Config

/-- The standard tags and filters, no partials and no objects. -/
def standard : Config where
  tags := Template.TagTable.standard
  filters := FilterTable.standard
  settings := {}
  storage := Storage.forbidden
  host := fun _ _ => none

/-! ## Inspection -/

/-- Quoted names with commas between them. -/
def quotedNames (names : List String) : String :=
  Value.separated (names.map Value.quoted)

/-- The name of a decimal encoding. -/
def inspectDecimals : DecimalEncoding → String
  | .full => "Full"
  | .scaled digits => "Scaled(" ++ toString digits ++ ")"

/-- The name of a key encoding. -/
def inspectKeys : KeyEncoding → String
  | .identity => "Identity"
  | .snakeCase => "SnakeCase"

/-- A named group of fields. -/
def inspectFields (name fields : String) : String :=
  name ++ " \x7b " ++ fields ++ " \x7d"

/-- The names of all tags and filters, and the settings. -/
def inspect (c : Config) : String :=
  inspectFields "TemplateConfig" <|
    "tags: " ++ inspectFields "TagRegistry"
      ("tags: [" ++ quotedNames (Bindings.names c.tags) ++ "]") ++
    ", filters: " ++ inspectFields "FilterRegistry"
      ("filters: [" ++ quotedNames (Bindings.names c.filters) ++ "]") ++
    ", options: " ++ inspectFields "RenderOptions"
      ("decimal_encoding: " ++ inspectDecimals c.settings.decimals ++
        ", key_encoding: " ++ inspectKeys c.settings.keys ++
        ", max_include_depth: " ++ toString c.settings.maxIncludeDepth) ++
    ", .."

end Config

end Stencil
