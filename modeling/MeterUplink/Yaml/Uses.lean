import MeterUplink.Yaml.Node

namespace MeterUplink.Yaml

/-! How often a reader follows the aliases of a document. A short text can stand for a very long
one by them, so a document is refused where aliases are followed more than a hundred times for
each part that is written. -/

/-- What a reader looks for in a node. The value of a key that is not named is passed over. -/
inductive Shape where
  | scalar
  | list (item : Shape)
  | record (fields : List (String × Shape))

/-- Some keys with scalars. -/
def Shape.scalars (names : List String) : Shape := record (names.map (·, scalar))

mutual

/-- Scalars and aliases are one part each; a collection has a beginning and an end besides. -/
def Node.partCount : Node → Nat
  | .scalar .. | .reference _ => 1
  | .anchored _ node => node.partCount
  | .sequence items => partCountOfItems items + 2
  | .mapping entries => partCountOfEntries entries + 2

def partCountOfItems : List Node → Nat
  | [] => 0
  | item :: items => item.partCount + partCountOfItems items

def partCountOfEntries : List (Node × Node) → Nat
  | [] => 0
  | (key, value) :: entries => key.partCount + value.partCount + partCountOfEntries entries

end

/-- One if a node is an alias. -/
def Node.aliasCount : Node → Nat
  | .reference _ => 1
  | _ => 0

namespace Document

variable (document : Document)

mutual

/-- How often aliases are followed by a reader of a node. -/
def uses : Shape → Node → Nat
  | .scalar, node => node.aliasCount
  | .list item, node =>
    match document.meaning node with
    | .sequence items => node.aliasCount + (items.map (uses item)).sum
    | _ => node.aliasCount
  | .record fields, node =>
    match document.meaning node with
    | .mapping entries =>
      node.aliasCount + (entries.map (·.1.aliasCount)).sum + usesOfFields fields entries
    | _ => node.aliasCount

def usesOfFields : List (String × Shape) → List (Node × Node) → Nat
  | [], _ => 0
  | (name, shape) :: fields, entries =>
    let values := entries.filter fun entry => (document.meaning entry.1).text? == some name
    (values.map fun entry => uses shape entry.2).sum + usesOfFields fields entries

end

/-- How often aliases may be followed for each part. -/
def usesPerPart : Nat := 100

/-- Whether a reader has to follow too many aliases. -/
def exhausts (shape : Shape) : Bool :=
  usesPerPart * document.root.partCount < document.uses shape document.root

end Document

end MeterUplink.Yaml
