import ApiTypes.Yaml.Fault

/-!
# Tokens of YAML

The indicators of a YAML text with their indentation resolved: block collections
are opened and closed by tokens of their own, and every mapping key is announced.
-/

namespace ApiTypes.Yaml

inductive Token where
  | versionDirective (major : Nat)
  | tagDirective (handle opening : Text)
  | otherDirective
  | documentStart
  | documentEnd
  | streamEnd
  | blockSequenceStart
  | blockMappingStart
  | blockEnd
  | flowSequenceStart
  | flowSequenceEnd
  | flowMappingStart
  | flowMappingEnd
  | blockEntry
  | flowEntry
  | key
  | value
  | alias (name : Text)
  | anchor (name : Text)
  | tag (handle : Option Text) (suffix : Text)
  | scalar (content : Text) (plain : Bool)
  /-- The text has a fault here; nothing follows. -/
  | fault (fault : Fault)
  deriving DecidableEq

end ApiTypes.Yaml
