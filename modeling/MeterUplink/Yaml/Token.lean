namespace MeterUplink.Yaml

/-! The tokens of a YAML document, from which its tree is read. -/

/-- How the text of a scalar is set off. -/
inductive ScalarStyle where
  | plain
  | singleQuoted
  | doubleQuoted
  | literal
  | folded
deriving Repr, DecidableEq

/-- The tokens of a document. Keys and the beginnings and ends of block collections have no
characters of their own in the text; they come from the colons and the indentation. -/
inductive Token where
  | version (major minor : Nat)
  | tagShorthand (handle : String) (expansion : List UInt8)
  | documentStart
  | documentEnd
  | blockSequenceStart
  | blockMappingStart
  | blockEnd
  | flowSequenceStart
  | flowSequenceEnd
  | flowMappingStart
  | flowMappingEnd
  | blockEntry
  | flowEntry
  | key
  | value
  | anchor (name : String)
  /-- The use of an anchor's name. -/
  | reference (name : String)
  | tag (handle : String) (suffix : List UInt8)
  | scalar (style : ScalarStyle) (text : String)
deriving Repr, DecidableEq

end MeterUplink.Yaml
