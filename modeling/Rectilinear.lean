import Rectilinear.Config.Load
import Rectilinear.Expr
import Rectilinear.Log.Session
import Rectilinear.Proofs.BandCounts
import Rectilinear.Proofs.BoundingBoxes
import Rectilinear.Proofs.CanonicalPoints
import Rectilinear.Proofs.Emptiness
import Rectilinear.Proofs.ExactArithmetic
import Rectilinear.Proofs.Formulas
import Rectilinear.Proofs.Idempotence
import Rectilinear.Proofs.Margins
import Rectilinear.Proofs.OverlappingMembers
import Rectilinear.Proofs.Overlaps
import Rectilinear.Proofs.Passes
import Rectilinear.Proofs.PieceCounts
import Rectilinear.Proofs.Placement
import Rectilinear.Proofs.Prefixes
import Rectilinear.Proofs.TranslatedSweep
