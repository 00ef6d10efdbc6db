import Vignette.Main
import Vignette.Markup.Listing
import Vignette.Markup.Workshop
import Vignette.Proofs.Batch.Images
import Vignette.Proofs.Canvas.Blending
import Vignette.Proofs.Canvas.Clipping
import Vignette.Proofs.Canvas.Ellipses
import Vignette.Proofs.Canvas.Retracing
import Vignette.Proofs.Canvas.Uncovered
import Vignette.Proofs.Color.Fallback
import Vignette.Proofs.Color.Handles
import Vignette.Proofs.Drawing.Discipline
import Vignette.Proofs.Drawing.Opacity
import Vignette.Proofs.Drawing.Rings
import Vignette.Proofs.Drawing.Styles
import Vignette.Proofs.Drawing.Tools
import Vignette.Proofs.Drawing.Unstyled
import Vignette.Proofs.Geometry.Angles
import Vignette.Proofs.Geometry.Arcs
import Vignette.Proofs.Geometry.Curves
import Vignette.Proofs.Length
import Vignette.Proofs.Markup.DocumentOrder
import Vignette.Proofs.Markup.Quoting
import Vignette.Proofs.Markup.RoundTrip
import Vignette.Proofs.Path.Curves
import Vignette.Proofs.Path.Faults
import Vignette.Proofs.Path.Joining
import Vignette.Proofs.Path.Modes
import Vignette.Proofs.Path.Relative
import Vignette.Proofs.Path.Segmentation
import Vignette.Proofs.Path.Smooth
import Vignette.Proofs.Path.Streaming
import Vignette.Proofs.Scope
import Vignette.Proofs.Style.Cascade
import Vignette.Proofs.Style.Joining
import Vignette.Proofs.Style.Priority
import Vignette.Proofs.Style.StrokeWidth
import Vignette.Proofs.Style.Table
