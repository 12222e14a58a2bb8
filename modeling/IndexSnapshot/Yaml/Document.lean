/-
# IndexSnapshot.Yaml.Document -- the value of a YAML document

A document stands for a value.  Of entries with equal keys in one map the last one
counts, in the place of the first.  A list or a map cannot be a key.

* `Document.read` is the value of the only document of a text; nothing if there is no
  document in it, and a fault if the text is not YAML.
-/
import IndexSnapshot.Yaml.Tree

namespace IndexSnapshot.Yaml

set_option autoImplicit false

namespace Document

/-- The value of the only document of a text. -/
def read (text : String) : Except Fault Value := do
  match ← Node.ofTokens (Token.ofText (String.ofList (Text.universal text.toList))) with
  | none => return .none
  | some node => node.tree.value

end Document

end IndexSnapshot.Yaml
