import MailSieve.Text.Blank
import MailSieve.Text.Case
import MailSieve.Text.Octets
import MailSieve.Text.Quoted
import MailSieve.Glob
import MailSieve.Tag
import MailSieve.Tree
import MailSieve.Error
import MailSieve.Address
import MailSieve.Comparator
import MailSieve.MatchArguments
import MailSieve.Evaluation.Command
import MailSieve.Json.Printer
import MailSieve.Json.Reader
import MailSieve.Format.Action
import MailSieve.Format.Config
import MailSieve.Format.Message
import MailSieve.Format.Tree
import MailSieve.Session
import MailSieve.Main
import MailSieve.Proofs.Correspondence
import MailSieve.Proofs.Run
import MailSieve.Proofs.Faults
import MailSieve.Proofs.Restriction
import MailSieve.Proofs.Boundary
import MailSieve.Proofs.RejectExclusive
import MailSieve.Proofs.Scoping
import MailSieve.Proofs.Chain
import MailSieve.Proofs.Progress
import MailSieve.Proofs.Recasting
import MailSieve.Proofs.Position
import MailSieve.Proofs.Trace
import MailSieve.Proofs.BranchOrder
import MailSieve.Proofs.Prolog
import MailSieve.Proofs.Ending
import MailSieve.Proofs.StaticEffects
import MailSieve.Proofs.GlobMatching
import MailSieve.Proofs.HeaderTests
import MailSieve.Proofs.LetterCase
import MailSieve.Proofs.RoundTrip
import MailSieve.Proofs.MatchGrammar
import MailSieve.Proofs.OctetBoundaries
import MailSieve.Proofs.GlobPatterns
import MailSieve.Proofs.GlobWalks
import MailSieve.Proofs.Collations
import MailSieve.Proofs.TestAlgebra
import MailSieve.Proofs.AddressPieces
import MailSieve.Proofs.AddressLists
import MailSieve.Proofs.Accuracy
import MailSieve.Proofs.Availability
import MailSieve.Proofs.FailedSteps
import MailSieve.Proofs.Containment
import MailSieve.Proofs.Persistence
import MailSieve.Proofs.Registration
import MailSieve.Proofs.Bookkeeping
import MailSieve.Proofs.Ledger
