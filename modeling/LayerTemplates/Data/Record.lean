/-
  LayerTemplates.Data.Record
  ──────────────────────────
  Reading records from documents.  A document format says through a `NodeView` what
  its nodes are; records are then read in one way from every format: a field that is
  left out takes its default, a field of another name is refused, and a list gives the
  fields in their order.
-/
import LayerTemplates.Data.Value

namespace LayerTemplates

/-- The parts of a node that can be read as a record. -/
inductive Parts (ν : Type) where
  | named (fields : List (String × ν))
  | inOrder (items : List ν)

/-- What the nodes of a document format are. -/
structure NodeView (ν : Type) where
  /-- The text of a node that is a text. -/
  text? : ν → Option String
  /-- The truth value of a node that is one. -/
  bool? : ν → Option Bool
  /-- The number of a node that is a natural number of at most 64 bits. -/
  natural? : ν → Option Nat
  /-- Whether the node says that there is nothing. -/
  isNothing : ν → Bool
  /-- The node as data. -/
  value? : ν → Option Value
  /-- The parts of a node that has some. -/
  parts? : ν → Option (Parts ν)

namespace NodeView

variable {ν : Type}

/-- The nodes of the fields with these names, where they are given.  Fields of other names
are passed over, but none of these may be given twice. -/
def knownFields? (view : NodeView ν) (names : List String) (node : ν) :
    Option (List (Option ν)) :=
  match view.parts? node with
  | none => none
  | some (.named fields) =>
      let keys := (fields.map Prod.fst).filter names.contains
      if keys.length == keys.eraseDups.length then
        some (names.map fun name => fields.lookup name)
      else
        none
  | some (.inOrder items) =>
      if items.length ≤ names.length then
        some (names.mapIdx fun index _ => items[index]?)
      else
        none

/-- Whether a node names no fields but these. -/
def hasOnly (view : NodeView ν) (names : List String) (node : ν) : Bool :=
  match view.parts? node with
  | some (.named fields) => fields.all fun (name, _) => names.contains name
  | _ => true

/-- The nodes of the fields with these names, where they are given and no others are. -/
def fields? (view : NodeView ν) (names : List String) (node : ν) : Option (List (Option ν)) :=
  if view.hasOnly names node then view.knownFields? names node else none

/-- The only character of a node that is a text of one character. -/
def char? (view : NodeView ν) (node : ν) : Option Char :=
  match (view.text? node).map String.toList with
  | some [c] => some c
  | _ => none

/-- A node that may say that there is nothing. -/
def optional? {α : Type} (view : NodeView ν) (read : ν → Option α) (node : ν) :
    Option (Option α) :=
  if view.isNothing node then some none else (read node).map some

end NodeView

/-- A field of a record: its default where it is left out. -/
def fieldOr {ν α : Type} (read : ν → Option α) (default : α) : Option (Option ν) → Option α
  | some (some node) => read node
  | _ => some default

/-- JSON values as nodes. -/
def Value.view : NodeView Value where
  text? | .string text => some text
        | _ => none
  bool? | .bool value => some value
        | _ => none
  natural? | .number (.integer value) => if value < 0 then none else some value.toNat
           | _ => none
  isNothing | .null => true
            | _ => false
  value? := some
  parts? | .object fields => some (.named fields)
         | .array items => some (.inOrder items)
         | _ => none

end LayerTemplates
