/-
  LayerTemplates.Render.State
  ───────────────────────────
  The bookkeeping of one render: the layers in progress, the results kept for another
  use, and a record of what has been done.
-/
import LayerTemplates.Render.Error
import LayerTemplates.Render.Getter
import LayerTemplates.Render.Rendered

namespace LayerTemplates

/-- The bookkeeping of one render. -/
structure RenderState where
  /-- Whether results are kept. -/
  fast : Bool := false
  /-- The layers in progress, outermost first. -/
  inProgress : List String := []
  /-- The results kept, latest first. -/
  cache : List (String × Rendered) := []
  /-- Every layer entered so far. -/
  visited : Array String := #[]
  /-- Every call of a getter so far. -/
  calls : Array CallRecord := #[]
  deriving Repr, Inhabited

namespace RenderState

/-- The result kept for a name. -/
def cached (s : RenderState) (name : String) : Option Rendered := s.cache.lookup name

/-- Keeps a result if results are kept. -/
def store (s : RenderState) (name : String) (result : Rendered) : RenderState :=
  if s.fast then { s with cache := (name, result) :: s.cache } else s

/-- Enters a layer; a layer in progress cannot be entered again. -/
def enter (s : RenderState) (name : String) : Except RenderError RenderState :=
  if name ∈ s.inProgress then
    .error (.cyclicDependence (s.inProgress ++ [name]))
  else
    .ok { s with inProgress := s.inProgress ++ [name], visited := s.visited.push name }

/-- Leaves a layer. -/
def leave (s : RenderState) (name : String) : RenderState :=
  { s with inProgress := s.inProgress.erase name }

/-- Notes a call of a getter. -/
def noteCall (s : RenderState) (call : CallRecord) : RenderState :=
  { s with calls := s.calls.push call }

/-- The number of layers in progress. -/
def depth (s : RenderState) : Nat := s.inProgress.length

end RenderState

end LayerTemplates
