import MeterUplink.Settings.Decoding
import MeterUplink.Yaml.Uses

namespace MeterUplink

/-! Settings as YAML documents. A text is taken as it is written, whatever it looks like; numbers
and truth values have to be written without quotes. -/

namespace Yaml

/-- The value of a digit below `base`. -/
def digitBelow? (base : Nat) (c : Char) : Option Nat :=
  (Hex.digitOf? c).filter (· < base)

/-- A number in the given base, at least one digit long. -/
def numberIn? (base : Nat) (digits : List Char) : Option Nat :=
  if digits.isEmpty then none
  else digits.foldlM (fun n c => (digitBelow? base c).map (base * n + ·)) 0

/-- Decimal digits without leading zeros. -/
def plainDecimal? (digits : List Char) : Option Nat :=
  if 1 < digits.length ∧ digits.head? = some '0' then none else numberIn? 10 digits

/-- An integer without sign or with a plus: decimal, or with the mark of another base. -/
def naturalOf? (text : List Char) : Option Nat :=
  let digits := if text.head? = some '+' then text.drop 1 else text
  match digits with
  | '0' :: 'x' :: rest => numberIn? 16 rest
  | '0' :: 'o' :: rest => numberIn? 8 rest
  | '0' :: 'b' :: rest => numberIn? 2 rest
  | _ => plainDecimal? digits

def flagOf? (text : String) : Option Bool :=
  if ["true", "True", "TRUE"].contains text then some true
  else if ["false", "False", "FALSE"].contains text then some false
  else none

def isNull (text : String) : Bool := ["", "~", "null", "Null", "NULL"].contains text

namespace Node

/-- The text of a scalar that may stand for a value of the type with this tag. -/
def literal? (tag : String) : Node → Option String
  | scalar .plain _ text => some text
  | scalar .literal (some other) text => if other = tag then some text else none
  | _ => none

def natural? (node : Node) : Option Nat :=
  (node.literal? "tag:yaml.org,2002:int").bind fun text => naturalOf? text.toList

def flag? (node : Node) : Option Bool := (node.literal? "tag:yaml.org,2002:bool").bind flagOf?

/-- The name in a local tag, in front of nothing. -/
def localName? (tag : String) (style : ScalarStyle) (text : String) : Option String :=
  if style == .plain && isNull text then some (String.ofList (tag.toList.drop 1)) else none

/-- An alternative is its name as a scalar, or as a local tag of nothing. -/
def choice? : Node → Option String
  | scalar style (some tag) text =>
    if tag.toList.head? = some '!' then localName? tag style text else some text
  | scalar _ none text => some text
  | _ => none

def isNothing : Node → Bool
  | scalar .plain _ text => text.isEmpty
  | _ => false

def items? (node : Node) : Option (List Node) :=
  match node with
  | sequence items => some items
  | other => if other.isNothing then some [] else none

end Node

/-- The entries of a mapping whose keys are scalars; where nothing is written there are none. -/
def entries? (document : Document) (node : Node) : Option (List (String × Node)) :=
  match document.meaning node with
  | .mapping entries =>
    entries.mapM fun entry => (document.meaning entry.1).text?.map (·, entry.2)
  | other => if other.isNothing then some [] else none

/-- The nodes of a document are looked at through its aliases. -/
def Document.format (document : Document) : Format Node where
  text? := fun node => (document.meaning node).text?
  natural? := fun node => (document.meaning node).natural?
  flag? := fun node => (document.meaning node).flag?
  choice? := fun node => (document.meaning node).choice?
  entries? := fun _ => entries? document
  items? := fun node => (document.meaning node).items?

end Yaml

/-- What a reader of settings looks for. -/
def Settings.shape : Yaml.Shape :=
  .record [("log_file", .scalar),
    ("serial", .scalars SerialSettings.keys),
    ("transport", .scalars TransportSettings.keys),
    ("payload", .record [("masking", .scalar),
      ("mask_widths", .scalars WidthSettings.keys),
      ("timestamp_truncate", .scalar),
      ("timestamp_separators", .scalar),
      ("chunk_length", .scalar),
      ("encryption", .scalars EncryptionSettings.keys)]),
    ("registers", .list (.scalars Definition.keys))]

/-- The settings of a YAML text. A text without a document leaves everything at its default. -/
def Settings.ofYaml? (text : String) : Option Settings := do
  match ← Yaml.parse? text with
  | none => some {}
  | some document =>
    if document.exhausts Settings.shape then none
    else Settings.read? document.format document.root

end MeterUplink
