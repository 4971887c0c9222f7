import Viewport.Sheet.Json
import Viewport.Sheet.Printer
import Viewport.Stage
import Viewport.Proofs.Sheet.Visit
import Viewport.Proofs.Stage.Transform
import Viewport.Proofs.Length.Scan
import Viewport.Proofs.Length.Cut
import Viewport.Proofs.Binary64.Format
import Viewport.Proofs.Length.Stable
import Viewport.Proofs.Stage.Idempotent
import Viewport.Proofs.Json.Draft
import Viewport.Proofs.Sheet.Json
import Viewport.Proofs.Sheet.Outline
import Viewport.Proofs.Stage.Events
import Viewport.Proofs.Stage.Structure
import Viewport.Proofs.Stage.Blacklist
import Viewport.Proofs.Config.Resolve
import Viewport.Proofs.Config.Json
import Viewport.Proofs.Binary64.Order
import Viewport.Proofs.Binary64.Plain
import Viewport.Proofs.Length.Reading
import Viewport.Proofs.Length.Share
import Viewport.Proofs.Length.Splice
import Viewport.Proofs.Length.Seam
import Viewport.Proofs.Length.Threshold
import Viewport.Proofs.Binary64.Rational
import Viewport.Proofs.Length.Places
import Viewport.Proofs.Binary64.Decimal
import Viewport.Proofs.Length.Order
import Viewport.Proofs.Config.Spelling
import Viewport.Proofs.Length.LetterCase
import Viewport.Proofs.Length.Matching
import Viewport.Proofs.Sheet.Parts
import Viewport.Proofs.Sheet.Spelling
import Viewport.Proofs.Sheet.Nesting
import Viewport.Proofs.Sheet.Printer
