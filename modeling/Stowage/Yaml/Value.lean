/-!
The values of a YAML document.
-/
namespace Stowage.Yaml

inductive Value where
  | null
  | bool (value : Bool)
  | int (value : Int)
  /-- A number with a fraction, by the text it is shown as. -/
  | float (text : String)
  | str (value : String)
  | seq (items : List Value)
  /-- Keys and values in the order of the document. -/
  | map (entries : List (Value × Value))
  /-- A value under a tag of the document's own. -/
  | tagged (tag : String) (value : Value)
  deriving Repr, Inhabited, BEq

end Stowage.Yaml
