/-
  LayerTemplates.Render.Getter
  ────────────────────────────
  Getters compute the text of a layer in place of the text that the source has.  A set
  of getters says which one is in charge of a layer.
-/
import LayerTemplates.Render.Options
import LayerTemplates.Render.Source

namespace LayerTemplates

/-- A call of a getter. -/
structure CallRecord where
  /-- The key under which the layer was found. -/
  key : String
  /-- The name of the layer. -/
  name : String
  /-- The text of the layer. -/
  value : String
  deriving Repr, DecidableEq, Inhabited

/-- What the answer of a getter can depend on: what it can see when it is called for a layer, and
the calls made before, since a getter may keep a state from one call to the next. -/
structure GetterCall where
  /-- The calls of getters before this one, from the first on. -/
  previous : List CallRecord
  /-- The key under which the layer was found. -/
  key : String
  name : String
  /-- The text that the source has. -/
  value : String
  data : Layered
  options : RenderOptions
  /-- Whether some getter is in charge of a name. -/
  hasGetter : String → Bool
  /-- Whether there are no getters at all. -/
  noGetters : Bool

/-- A getter gives a text, or its messages from the outermost to the root cause.  Equal calls may
be answered differently: what is answered in a run is a function of the call and of those before,
whatever state the getter keeps. -/
abbrev Getter := GetterCall → Except (List String) String

/-- The getters of a render. -/
inductive GetterSet where
  | none
  /-- One getter for every layer. -/
  | single (getter : Getter)
  /-- Getters under keys; the first key that matches decides. -/
  | keyed (getters : List (LayerKey × Getter))

namespace GetterSet

/-- Adds a getter under a key; a single getter for every layer is given up. -/
def add (s : GetterSet) (key : LayerKey) (getter : Getter) : GetterSet :=
  match s with
  | .keyed getters => .keyed (getters ++ [(key, getter)])
  | .none | .single _ => .keyed [(key, getter)]

/-- The getter in charge of a name. -/
def find (s : GetterSet) (name : String) : Option Getter :=
  match s with
  | .none => Option.none
  | .single getter => some getter
  | .keyed getters => (getters.find? fun item => item.1.accepts name).map Prod.snd

/-- Whether there are no getters at all. -/
def isEmpty : GetterSet → Bool
  | .none => true
  | .single _ => false
  | .keyed getters => getters.isEmpty

/-- What the set shows of itself: the quoted keys of its getters. -/
def describe : GetterSet → String
  | .none => "GetterSet::None"
  | .single _ => "GetterSet::Single"
  | .keyed getters =>
      "[" ++ ", ".intercalate (getters.map fun item => doubleQuoted item.1.text) ++ "]"

end GetterSet

end LayerTemplates
