import Mapwright.Files.Output
import Mapwright.Files.Sources
import Mapwright.Proofs.Access
import Mapwright.Proofs.Meaning
import Mapwright.Proofs.Moves
import Mapwright.Proofs.Rebuild
import Mapwright.Students
import Mapwright.Proofs.History
import Mapwright.Proofs.Accounting
import Mapwright.Proofs.Isolation
import Mapwright.Proofs.Outcome
import Mapwright.Proofs.Casing
import Mapwright.Proofs.Output
import Mapwright.Proofs.Headings
import Mapwright.Proofs.Siblings
import Mapwright.Proofs.Recursion
import Mapwright.Proofs.Constructors
import Mapwright.Proofs.Coverage
import Mapwright.Proofs.Denial
import Mapwright.Proofs.Agreement
import Mapwright.Proofs.Rearrangement
import Mapwright.Proofs.Precedence
import Mapwright.Proofs.SourceArguments
import Mapwright.Proofs.LastDeclaration
import Mapwright.Proofs.Imports
import Mapwright.Proofs.Outline
import Mapwright.Proofs.FullPaths
import Mapwright.Proofs.Aliases
import Mapwright.Proofs.Delegation
import Mapwright.Proofs.Admission
import Mapwright.Proofs.LocalTypes
import Mapwright.Proofs.WholeText
import Mapwright.Proofs.Structure
import Mapwright.Proofs.Scan
import Mapwright.Proofs.ExtensionNames
import Mapwright.Proofs.ArgumentLayouts
import Mapwright.Proofs.Legible
import Mapwright.Proofs.ReadingBack
import Mapwright.Proofs.Registry
import Mapwright.Proofs.Dependencies
import Mapwright.Proofs.Header
import Mapwright.Proofs.MarkerArguments
import Mapwright.Proofs.CaseConversion
