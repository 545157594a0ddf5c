import LayerTemplates.Main
import LayerTemplates.Proofs.Expression.Lexing
import LayerTemplates.Proofs.Render.FastMode
import LayerTemplates.Proofs.Render.Check
import LayerTemplates.Proofs.Control.Balance
import LayerTemplates.Proofs.Render.Asking
import LayerTemplates.Proofs.Expression.Literal
import LayerTemplates.Proofs.Expression.Locality
import LayerTemplates.Proofs.Layer.Cuts
import LayerTemplates.Proofs.Render.Moments
import LayerTemplates.Proofs.Render.References
import LayerTemplates.Proofs.Render.Termination
import LayerTemplates.Proofs.Render.Relevance
import LayerTemplates.Proofs.Expression.Spelling
import LayerTemplates.Proofs.Layer.Naming
import LayerTemplates.Proofs.Render.Independence
import LayerTemplates.Proofs.Expression.Roots
import LayerTemplates.Proofs.Expression.Moving
import LayerTemplates.Proofs.Control.Origins
import LayerTemplates.Proofs.Layer.Reporting
import LayerTemplates.Proofs.Render.Calling
import LayerTemplates.Proofs.Render.Duality
import LayerTemplates.Proofs.Layer.Following
import LayerTemplates.Proofs.Expression.Walking
import LayerTemplates.Proofs.Expression.Rereading
import LayerTemplates.Proofs.Expression.Collapsing
import LayerTemplates.Proofs.Expression.Classifying
import LayerTemplates.Proofs.Layer.Alone
import LayerTemplates.Proofs.Layer.Spans
import LayerTemplates.Proofs.Layer.Positions
import LayerTemplates.Proofs.Control.Traversal
import LayerTemplates.Proofs.Render.Substitutes
import LayerTemplates.Proofs.Render.FirstMatch
import LayerTemplates.Proofs.Layer.Outlines
import LayerTemplates.Proofs.Expression.Respacing
import LayerTemplates.Proofs.Render.Counting
