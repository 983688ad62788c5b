import BodyDigest.CommandLine.Ending
import BodyDigest.Main
import BodyDigest.Proofs.Accounting
import BodyDigest.Proofs.Attributes
import BodyDigest.Proofs.Attribution
import BodyDigest.Proofs.Braced.Partition
import BodyDigest.Proofs.Braced.Reached
import BodyDigest.Proofs.Difference
import BodyDigest.Proofs.Discovery
import BodyDigest.Proofs.Discrimination
import BodyDigest.Proofs.Editing
import BodyDigest.Proofs.Indentation
import BodyDigest.Proofs.Indented.Excerpts
import BodyDigest.Proofs.Indented.ModuleNames
import BodyDigest.Proofs.Layout
import BodyDigest.Proofs.Literals
import BodyDigest.Proofs.Locality
import BodyDigest.Proofs.Normalizing
import BodyDigest.Proofs.Project.Failures
import BodyDigest.Proofs.Project.Staleness
import BodyDigest.Proofs.Promotion
import BodyDigest.Proofs.Rejection
import BodyDigest.Proofs.Resolution
import BodyDigest.Proofs.Scanning
import BodyDigest.Proofs.Storing
import BodyDigest.Proofs.Readmission
import BodyDigest.Proofs.Reformatting
