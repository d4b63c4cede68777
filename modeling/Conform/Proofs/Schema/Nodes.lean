import Conform.Proofs.Pointer.Spelling
import Conform.Schema.Basic

/-!
# The nodes of a schema

`Schema.NodeAt` leads from a schema to the nodes below it, along the keywords that they stand under
when the schema is rendered: `items`, `properties` with a name, `anyOf` with an index. In messages
the place of a node is the spelling of this path.
-/

namespace Conform

namespace Schema

/-- The path leads from a schema to a node in it. -/
inductive NodeAt : Schema → Pointer.Path → Schema → Prop
  | here {schema : Schema} : NodeAt schema [] schema
  | item {item node : Schema} {least most : Value} {path : Pointer.Path} :
      NodeAt item path node → NodeAt (.list item least most) (.str "items" :: path) node
  | field {entries : List Entry} {strict name required : Value} {schema node : Schema}
      {path : Pointer.Path} :
      .named name (.field schema required) ∈ entries → NodeAt schema path node →
      NodeAt (.object entries strict) (.str "properties" :: name :: path) node
  | option {options : List Schema} {option node : Schema} {index : Nat} {path : Pointer.Path} :
      options[index]? = some option → NodeAt option path node →
      NodeAt (.union options) (.str "anyOf" :: .int index :: path) node

end Schema

end Conform
