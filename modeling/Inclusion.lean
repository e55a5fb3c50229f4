import Inclusion.CommandLine.Run
import Inclusion.Gate
import Inclusion.Hash.Pool
import Inclusion.Json.Printer
import Inclusion.Main
import Inclusion.Proofs.PairHash
import Inclusion.Proofs.Queue
import Inclusion.Proofs.Reconstruction
import Inclusion.Proofs.Shape
import Inclusion.Proofs.Plan
import Inclusion.Proofs.Membership
import Inclusion.Proofs.Layout
import Inclusion.Proofs.Climb
import Inclusion.Proofs.Path
import Inclusion.Proofs.Branch
import Inclusion.Proofs.Precedence
import Inclusion.Proofs.Sensitivity
import Inclusion.Proofs.Script
import Inclusion.Proofs.Routes
import Inclusion.Proofs.Admission
import Inclusion.Proofs.KeptSettings
import Inclusion.Proofs.Invocation
import Inclusion.Proofs.Spelling
import Inclusion.Proofs.ExitStatus
import Inclusion.Proofs.Startup
import Inclusion.Proofs.Grammar
import Inclusion.Proofs.Resumption
import Inclusion.Proofs.SoleLeaf
import Inclusion.Proofs.Schedule
import Inclusion.Proofs.Normalization
import Inclusion.Proofs.Respelling
import Inclusion.Proofs.UnorderedPair
import Inclusion.Proofs.NumericOrder
import Inclusion.Proofs.Positions
import Inclusion.Proofs.Capitals
import Inclusion.Proofs.Meaning
import Inclusion.Proofs.Configuration
