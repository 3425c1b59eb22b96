import Screening.Store.Demo
import Screening.Session
import Screening.Settings.Profiles
import Screening.Operand
import Screening.Shorthand
import Screening.Proofs.Completeness.Exact
import Screening.Proofs.Expr.Algebra
import Screening.Proofs.Expr.Decided
import Screening.Proofs.Expr.Stored
import Screening.Proofs.Operator
import Screening.Proofs.Preview
import Screening.Proofs.Session.Companions
import Screening.Proofs.Session.Consistency
import Screening.Proofs.Session.LoadOrder
import Screening.Proofs.Session.Ownership
import Screening.Proofs.Session.Retention
import Screening.Proofs.Session.Tally
import Screening.Proofs.Settings.Layers
import Screening.Proofs.Shorthand.RoundTrip
import Screening.Proofs.Store.Renaming
import Screening.Proofs.Expr.DepthFirst
import Screening.Proofs.Expr.Misplaced
import Screening.Proofs.Session.Subjects
import Screening.Proofs.PassRate
import Screening.Proofs.Request
import Screening.Proofs.Store.ByName
import Screening.Proofs.Settings.Listed
import Screening.Proofs.Expr.Spelling
import Screening.Proofs.Requirements
import Screening.Proofs.Shorthand.Naming
