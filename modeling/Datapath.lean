import Datapath.Immediate
import Datapath.Program
import Datapath.Proofs.Comparison
import Datapath.Proofs.StoredWords
import Datapath.Proofs.Atomicity
import Datapath.Proofs.Agreement
import Datapath.Proofs.Restart
import Datapath.Proofs.Attribution
import Datapath.Proofs.History
import Datapath.Proofs.Accounting
import Datapath.Proofs.RegisterContents
import Datapath.Proofs.HiddenSlot
import Datapath.Proofs.RelativeBranches
import Datapath.Proofs.SequentialFlow
import Datapath.Proofs.Nesting
import Datapath.Proofs.Logging
import Datapath.Proofs.LogAgreement
import Datapath.Proofs.FlagProvenance
import Datapath.Proofs.Diagnostics
import Datapath.Proofs.RecordLayout
import Datapath.Proofs.ConfigSchema
import Datapath.Proofs.ConfiguredNumbers
import Datapath.Proofs.ExactArithmetic
import Datapath.Proofs.Ownership
import Datapath.Proofs.Division
import Datapath.Proofs.Shifting
import Datapath.Proofs.SignExtension
import Datapath.Proofs.DueFaults
import Datapath.Proofs.Footprints
import Datapath.Proofs.Independence
import Datapath.Proofs.BranchSums
import Datapath.Proofs.TextReading
import Datapath.Proofs.MemoryListing
import Datapath.Proofs.Delimiting
import Datapath.Proofs.Messages
import Datapath.Proofs.RegisterListing
import Datapath.Proofs.SourceChains
import Datapath.Proofs.Reports
