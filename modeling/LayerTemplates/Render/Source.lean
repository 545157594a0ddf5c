/-
  LayerTemplates.Render.Source
  ────────────────────────────
  Where layers come from: maps from names to values, in their order or sorted, and
  sources whose keys may be patterns, of which the first that matches wins.  An inline
  template takes the place of one layer of a source.

  Main statements:
    * `mem_entries_of_lookup` — a value that is looked up is the value of an entry.
-/
import LayerTemplates.Data.Value
import LayerTemplates.Render.Key

namespace LayerTemplates

/-! ## §1. Sources. -/

/-- A layer as it was found: the key that matched, and the value. -/
structure Entry where
  key : String
  value : Value
  deriving Repr, Inhabited

/-- Whether the layer is a template. -/
def Entry.isTemplate (e : Entry) : Bool :=
  match e.value with
  | .string _ => true
  | _ => false

/-- The text of a layer that is a template. -/
def Entry.text? (e : Entry) : Option String :=
  match e.value with
  | .string text => some text
  | _ => none

/-- Layers under keys that may be patterns, in the order of their first insertion. -/
structure PatternSource where
  items : List (LayerKey × Value) := []

namespace PatternSource

/-- Sets the value of a key.  A key that is there keeps its place. -/
def insert (s : PatternSource) (key : LayerKey) (value : Value) : PatternSource :=
  ⟨go s.items⟩
where
  go : List (LayerKey × Value) → List (LayerKey × Value)
    | [] => [(key, value)]
    | item :: rest => if item.1.same key then (item.1, value) :: rest else item :: go rest

/-- The layers of a map whose keys written as `/expr/` are patterns, compiled by an engine; none
where one of them is invalid. -/
def ofFieldsWith? (compile : String → Option NamePattern) (fields : List (String × Value)) :
    Option PatternSource :=
  fields.foldlM
    (fun s (key, value) => (LayerKey.ofTextWith? compile key).map fun key => s.insert key value) {}

/-- The layers of a map by the engine of this project. -/
def ofFields? (fields : List (String × Value)) : Option PatternSource :=
  ofFieldsWith? NamePattern.compile? fields

/-- The layer under the first key that matches a name. -/
def lookup (s : PatternSource) (name : String) : Option Entry :=
  (s.items.find? fun item => item.1.accepts name).map fun (key, value) =>
    { key := key.text, value }

/-- All layers under the texts of their keys. -/
def entries (s : PatternSource) : List Entry :=
  s.items.map fun (key, value) => { key := key.text, value }

end PatternSource

/-- A source of layers. -/
inductive DataSource where
  /-- A map in its own order. -/
  | ordered (fields : List (String × Value))
  /-- A map without an order, whose entries are listed by key. -/
  | unordered (fields : List (String × Value))
  | patterns (source : PatternSource)

namespace DataSource

/-- The layer of a map under a name. -/
def lookupIn (fields : List (String × Value)) (name : String) : Option Entry :=
  (fields.lookup name).map fun value => { key := name, value }

/-- The layer that answers to a name. -/
def lookup : DataSource → String → Option Entry
  | .ordered fields, name | .unordered fields, name => lookupIn fields name
  | .patterns source, name => source.lookup name

/-- All layers. -/
def entries : DataSource → List Entry
  | .ordered fields => fields.map fun (key, value) => { key, value }
  | .unordered fields =>
      (fields.mergeSort fun a b => a.1 ≤ b.1).map fun (key, value) => { key, value }
  | .patterns source => source.entries

/-- A value that a map holds under a name stands in the map. -/
theorem mem_of_lookup {fields : List (String × Value)} {name : String} {value : Value}
    (h : fields.lookup name = some value) : (name, value) ∈ fields := by
  induction fields with
  | nil => simp at h
  | cons field rest ih =>
    obtain ⟨key, held⟩ := field
    rw [List.lookup_cons] at h
    split at h
    · next hname =>
      obtain rfl := eq_of_beq hname
      simp_all
    · exact List.mem_cons_of_mem _ (ih h)

/-- A layer of a map under a name stands in the map. -/
theorem mem_of_lookupIn {fields : List (String × Value)} {name : String} {e : Entry}
    (h : lookupIn fields name = some e) : (name, e.value) ∈ fields := by
  obtain ⟨value, hv, rfl⟩ := Option.map_eq_some_iff.1 h
  exact mem_of_lookup hv

/-- A value that is looked up is the value of an entry. -/
theorem mem_entries_of_lookup {s : DataSource} {name : String} {e : Entry}
    (h : s.lookup name = some e) : ∃ entry ∈ s.entries, entry.value = e.value := by
  cases s with
  | ordered fields =>
    exact ⟨⟨name, e.value⟩, List.mem_map.2 ⟨_, mem_of_lookupIn h, rfl⟩, rfl⟩
  | unordered fields =>
    refine ⟨⟨name, e.value⟩, List.mem_map.2 ⟨(name, e.value), ?_, rfl⟩, rfl⟩
    exact List.mem_mergeSort.2 (mem_of_lookupIn h)
  | patterns source =>
    obtain ⟨item, hitem, rfl⟩ := Option.map_eq_some_iff.1 h
    exact ⟨_, List.mem_map.2 ⟨item, List.mem_of_find?_eq_some hitem, rfl⟩, rfl⟩

end DataSource

/-! ## §2. Inline templates. -/

/-- A source, and perhaps a template that takes the place of one of its layers. -/
structure Layered where
  template : Option Entry := none
  inner : DataSource

namespace Layered

/-- The layer that answers to a name; the template comes first. -/
def lookup (l : Layered) (name : String) : Option Entry :=
  match l.template with
  | some entry => if entry.key = name then some entry else l.inner.lookup name
  | none => l.inner.lookup name

/-- The texts that names can lead to: that of the template, and all of the source. -/
def texts (l : Layered) : List String :=
  (l.template.toList ++ l.inner.entries).filterMap Entry.text?

/-- All layers, the template first. -/
def entries (l : Layered) : List Entry :=
  match l.template with
  | some entry => entry :: l.inner.entries.filter fun other => other.key ≠ entry.key
  | none => l.inner.entries

end Layered

end LayerTemplates
