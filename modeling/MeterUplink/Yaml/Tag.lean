import MeterUplink.Numeral.Hex
import MeterUplink.Yaml.Source

namespace MeterUplink.Yaml

/-! Names and tags: anchors, aliases, tags and the directives in front of a document. -/

def isNameChar (c : Char) : Bool := c.isAlphanum || c == '-' || c == '_'

/-- The characters of a tag; those of brackets only where the tag is set off itself. -/
def isTagChar (enclosed : Bool) (c : Char) : Bool :=
  isNameChar c || ";/?:@&=+$.!~*'()%".toList.contains c || (enclosed && ",[]".toList.contains c)

/-- Whether an anchor or alias may end here. -/
def endsName (text : List Char) : Bool :=
  startsBlank text || text.head?.any fun c => "?:,]%@`".toList.contains c || c == '\x7d'

/-- The name behind an ampersand or asterisk. -/
def scanName (position : Position) (text : List Char) : Option (Scanned String) :=
  let name := text.takeWhile isNameChar
  let rest := text.dropWhile isNameChar
  if name.isEmpty || !endsName rest then none
  else some ⟨String.ofList name, position.pastAll name, rest⟩

/-! ## Octets

A tag is a sequence of octets. A percent sign and two hexadecimal digits stand for one of them,
and the octets that are written so have to make up whole characters by their lengths. -/

/-- How many octets a character has, by the first one of them. -/
def characterLength? (octet : UInt8) : Option Nat :=
  if octet < 0x80 then some 1
  else if octet < 0xC0 then none
  else if octet < 0xE0 then some 2
  else if octet < 0xF0 then some 3
  else if octet < 0xF8 then some 4
  else none

/-- How many more octets are due behind this one, if `due` of them were due with it. -/
def dueBehind? (due : Nat) (octet : UInt8) : Option Nat :=
  if due = 0 then (characterLength? octet).map (· - 1)
  else if 0x80 ≤ octet ∧ octet < 0xC0 then some (due - 1)
  else none

/-- The octets that the characters of a tag stand for, of which `due` finish a character. -/
def tagOctets? (due : Nat) : List Char → Option (List UInt8)
  | [] => if due = 0 then some [] else none
  | '%' :: high :: low :: rest => do
    let octet := UInt8.ofNat (16 * (← Hex.digitOf? high) + (← Hex.digitOf? low))
    let later ← tagOctets? (← dueBehind? due octet) rest
    some (octet :: later)
  | c :: rest =>
    if due = 0 ∧ c ≠ '%' then (tagOctets? 0 rest).map (UInt8.ofNat c.toNat :: ·) else none

/-- The octets of a tag, which end before the first zero. -/
def tagText? (text : List Char) : Option (List UInt8) :=
  (tagOctets? 0 text).map (·.takeWhile (· ≠ 0))

/-! ## Tags -/

/-- A tag, split in a handle and the octets behind it. -/
structure TagText where
  handle : String
  suffix : List UInt8
deriving Repr, DecidableEq

/-- The tag of an exclamation mark alone. -/
def bareTag : List UInt8 := [33]

/-- Whether a tag may end here. -/
def endsTag (inFlow : Bool) (text : List Char) : Bool :=
  startsBlank text || (inFlow && text.head? == some ',')

/-- A tag that is written out between angle brackets. -/
def scanVerbatim (position : Position) (text : List Char) : Option (Scanned TagText) := do
  let name := text.takeWhile (isTagChar true)
  let octets ← tagText? name
  match text.dropWhile (isTagChar true) with
  | '>' :: rest =>
    if name.isEmpty then none else some ⟨⟨"", octets⟩, position.pastAll (name ++ ['>']), rest⟩
  | _ => none

/-- A tag behind its first exclamation mark. -/
def scanShorthand (position : Position) (text : List Char) : Option (Scanned TagText) := do
  let name := text.takeWhile isNameChar
  match text.dropWhile isNameChar with
  | '!' :: rest =>
    let suffix := rest.takeWhile (isTagChar false)
    let octets ← tagText? suffix
    if suffix.isEmpty then none
    else
      let handle := String.ofList ('!' :: name ++ ['!'])
      some ⟨⟨handle, octets⟩, position.pastAll (name ++ '!' :: suffix),
        rest.dropWhile (isTagChar false)⟩
  | _ =>
    let suffix := text.takeWhile (isTagChar false)
    let octets ← tagText? suffix
    let tag : TagText := if octets.isEmpty then ⟨"", bareTag⟩ else ⟨"!", octets⟩
    some ⟨tag, position.pastAll suffix, text.dropWhile (isTagChar false)⟩

/-- Reads a tag behind its exclamation mark. -/
def scanTag (inFlow : Bool) (position : Position) (text : List Char) :
    Option (Scanned TagText) := do
  let scanned ←
    match text with
    | '<' :: rest => scanVerbatim (position.past '<') rest
    | _ => scanShorthand position text
  if endsTag inFlow scanned.rest then some scanned else none

/-- The handle of a tag directive: one exclamation mark, or a name between two. -/
def isHandle : List Char → Bool
  | ['!'] => true
  | '!' :: rest => rest.getLast? == some '!' && rest.dropLast.all isNameChar
  | _ => false

end MeterUplink.Yaml
