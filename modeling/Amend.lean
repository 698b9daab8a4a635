import Amend.Declaration
import Amend.Json.Reader
import Amend.Proofs.Absence
import Amend.Proofs.Buildable
import Amend.Proofs.Denotation
import Amend.Proofs.Indifference
import Amend.Proofs.Lifecycle
import Amend.Proofs.Meaning
import Amend.Proofs.Regrouping
import Amend.Proofs.Suffixes
import Amend.Proofs.Targets
import Amend.Proofs.Interleaving
import Amend.Proofs.Layers
import Amend.Proofs.Attributes
import Amend.Proofs.GeneratedNames
