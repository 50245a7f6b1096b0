/-!
# Tokens of YAML

A `Token` is a unit of YAML text: an indicator, a scalar, or the point where the indentation opens
or closes a collection.
-/

namespace Dashboard
namespace Yaml

/-- An instruction before a document. -/
inductive Directive where
  | version (major : Nat)
  | handle (name uri : String)
  | reserved
  deriving Repr, DecidableEq

/-- A unit of YAML text. -/
inductive Token where
  | directive (d : Directive)
  | documentStart
  | documentEnd
  | blockSequenceStart
  | blockMappingStart
  | blockEnd
  | flowSequenceStart
  | flowSequenceEnd
  | flowMappingStart
  | flowMappingEnd
  | flowEntry
  | blockEntry
  | key
  | value
  | alias (name : String)
  | anchor (name : String)
  | tag (handle : Option String) (suffix : String)
  | scalar (text : String) (plain : Bool)
  deriving Repr, DecidableEq

end Yaml
end Dashboard
