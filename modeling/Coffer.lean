import Coffer.Interface.Calls
import Coffer.Interface.Handles
import Coffer.Main
import Coffer.Session
import Coffer.Proofs.Header.Reading
import Coffer.Proofs.Header.Codec
import Coffer.Proofs.Container
import Coffer.Proofs.Encryption
import Coffer.Proofs.CostLimits
import Coffer.Proofs.Header.Signing
import Coffer.Proofs.RoundTrip
import Coffer.Proofs.Verdict
import Coffer.Proofs.Tampering
import Coffer.Proofs.Endings
import Coffer.Proofs.Composition
import Coffer.Proofs.Calls
import Coffer.Proofs.FileRoundTrip
import Coffer.Proofs.Handles
import Coffer.Proofs.Similarity
import Coffer.Proofs.Secrecy
import Coffer.Proofs.Arguments
import Coffer.Proofs.PassphraseOptions
import Coffer.Proofs.Sealing
import Coffer.Proofs.Reuse
import Coffer.Proofs.Header.Faults
import Coffer.Proofs.Lines
import Coffer.Proofs.FirstLine
import Coffer.Proofs.Inspection
import Coffer.Proofs.DecryptionReport
import Coffer.Proofs.ErrorChain
import Coffer.Proofs.Header.Operations
import Coffer.Proofs.Confirmation
import Coffer.Proofs.Requests
import Coffer.Proofs.Bounds
