/-
  LayerTemplates.Render.Renderer
  ──────────────────────────────
  Rendering: the entry point is resolved, and with it every layer that it refers to,
  depth first.

  A name is resolved by entering it, expanding it and leaving it again.  Expanding looks
  the name up; a text is parsed and walked, and the names it refers to are resolved in
  turn.  Names may lead anywhere, so a render is told how deep it may go; without
  getters a bound that is always enough is known beforehand.
-/
import LayerTemplates.Render.State
import LayerTemplates.Render.Walk

namespace LayerTemplates

/-- What a render works with. -/
structure Renderer where
  data : Layered
  options : RenderOptions := {}
  getters : GetterSet := .none

namespace Renderer

/-- A renderer for a source; a template takes the place of the entry point. -/
def make (data : DataSource) (options : RenderOptions) (template : Option String)
    (getters : GetterSet) : Renderer :=
  { data := {
      template := template.map fun text =>
        { key := options.entryPoint, value := .string text : Entry }
      inner := data }
    options, getters }

/-- What takes the place of a layer that the source does not have. -/
def substitute (r : Renderer) : Rendered :=
  match r.options.missing with
  | some value => Rendered.ofValue value
  | none => .absent

/-- The call for a layer that was found, after the calls made before. -/
def callFor (r : Renderer) (previous : List CallRecord) (entry : Entry) (name value : String) :
    GetterCall :=
  { previous, key := entry.key, name, value, data := r.data, options := r.options
    hasGetter := fun other => (r.getters.find other).isSome
    noGetters := r.getters.isEmpty }

/-- The text of a layer: that of the getter in charge of it, if there is one. -/
def layerText (r : Renderer) (entry : Entry) (name value : String) : Run RenderState String :=
  match r.getters.find name with
  | none => return value
  | some getter => do
      let previous := (← get).calls.toList
      modify fun s => s.noteCall { key := entry.key, name, value }
      match getter (r.callFor previous entry name value) with
      | .ok text => return text
      | .error messages => throw (.error (.getterFailed name messages))

/-- Parses the text of a layer. -/
def parse (r : Renderer) (name text : String) : Except RenderError ParsedLayer :=
  match ParsedLayer.parse name text r.options.tags with
  | .ok layer => .ok layer
  | .error report => .error (.faultyLayer report)

/-- What a name amounts to; `resolve` is asked for the names that its text refers to. -/
def expand (r : Renderer) (resolve : String → Run RenderState Rendered) (name : String) :
    Run RenderState Rendered :=
  match r.data.lookup name with
  | none => return r.substitute
  | some entry =>
      match entry.value with
      | .string value => do
          let text ← r.layerText entry name value
          let layer ← Run.ofExcept (r.parse name text)
          walk layer text resolve
      | value => return .data value

/-- Resolves a name, following references at most `depth` deep.  A result that was kept is
used again; else the layer is entered, expanded and left, whatever comes of it. -/
def resolve (r : Renderer) : Nat → String → Run RenderState Rendered
  | 0, _ => throw .tooDeep
  | depth + 1, name => do
      match (← get).cached name with
      | some result => return result
      | none =>
          set (← Run.ofExcept ((← get).enter name))
          let outcome ← Run.observe (r.expand (r.resolve depth) name)
          modify fun s => s.leave name
          let result ← liftExcept outcome
          modify fun s => s.store name result
          return result
where
  liftExcept : Except Halt Rendered → Run RenderState Rendered
    | .ok result => return result
    | .error halt => throw halt

/-- Renders the entry point, following references at most `depth` deep. -/
def renderWithin (r : Renderer) (depth : Nat) : Except Halt Rendered × RenderState :=
  let fresh : RenderState := { fast := r.options.fast }
  match r.options.validate with
  | .error reason => (.error (.error (.invalidOptions reason)), fresh)
  | .ok () =>
      match r.data.lookup r.options.entryPoint with
      | none => (.error (.error (.missingEntryPoint r.options.entryPoint)), fresh)
      | some _ => (r.resolve depth r.options.entryPoint).outcome fresh

/-- The number of characters in the texts that names can lead to.  Every reference takes a
character, so without getters no chain of references is longer. -/
def textLength (r : Renderer) : Nat :=
  r.data.texts.foldr (fun text total => text.length + total) 0

/-- How deep a render may go.  Getters can name layers without end, so with getters there
is a limit that no sensible data reaches. -/
def depthLimit (r : Renderer) : Nat :=
  match r.getters with
  | .none => r.textLength + 2
  | _ => r.textLength + 65536

/-- Renders the entry point. -/
def render (r : Renderer) : Except Halt Rendered × RenderState := r.renderWithin r.depthLimit

/-- Parses a layer and refuses placeholders with the wrong number of parts, without
resolving anything. -/
def check (r : Renderer) (name text : String) : Except RenderError ParsedLayer := do
  let layer ← r.parse name text
  layer.placeholders.forM fun p =>
    match p.directive with
    | some d => checkArity layer text p d
    | none => .ok ()
  return layer

end Renderer

end LayerTemplates
