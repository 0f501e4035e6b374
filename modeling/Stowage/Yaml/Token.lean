/-!
The tokens of a YAML text.
-/
namespace Stowage.Yaml

/-- A tag as it is written: a handle, which the document can define, and what follows it. A tag
that is given in full has the empty handle. -/
structure TagText where
  handle : String
  suffix : String
  deriving DecidableEq, Repr, Inhabited

inductive Token where
  /-- The document's version of the language. -/
  | version (major minor : Nat)
  /-- What a tag's handle stands for. -/
  | tagHandle (handle expansion : String)
  | documentStart
  | documentEnd
  | blockSequenceStart
  | blockMappingStart
  | blockEnd
  | flowSequenceStart
  | flowSequenceEnd
  | flowMappingStart
  | flowMappingEnd
  | blockEntry
  | flowEntry
  | key
  | value
  | alias (name : String)
  | anchor (name : String)
  | tag (text : TagText)
  /-- A scalar; a plain one is written without quotes. -/
  | scalar (text : String) (plain : Bool)
  deriving DecidableEq, Repr, Inhabited

end Stowage.Yaml
