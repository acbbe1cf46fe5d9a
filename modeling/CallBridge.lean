import CallBridge.Config.Printer
import CallBridge.Defaults
import CallBridge.Proofs.RoundTrip
import CallBridge.Proofs.Trampolines
import CallBridge.Session.Play
import CallBridge.Proofs.CallOrder
import CallBridge.Proofs.Nesting
import CallBridge.Proofs.LockWord
import CallBridge.Proofs.LockHeld
import CallBridge.Proofs.Ownership
import CallBridge.Proofs.WriteFrame
import CallBridge.Proofs.Lifecycle
import CallBridge.Proofs.HandlePhases
import CallBridge.Proofs.Precedence
import CallBridge.Proofs.Interpretation
import CallBridge.Proofs.Discovery
import CallBridge.Proofs.WrittenStrings
import CallBridge.Proofs.WrittenDocuments
import CallBridge.Proofs.WrittenSettings
import CallBridge.Proofs.SchemaAcceptance
import CallBridge.Proofs.NarrowResults
import CallBridge.Proofs.SizeSums
import CallBridge.Proofs.LoadFailures
import CallBridge.Proofs.RepeatedLoads
import CallBridge.Proofs.PathComponents
import CallBridge.Proofs.DirectoryAndFile
import CallBridge.Proofs.OpenLibraries
import CallBridge.Proofs.SearchOrder
import CallBridge.Proofs.Driving
import CallBridge.Proofs.OpenedFiles
import CallBridge.Proofs.AcceptedDocuments
import CallBridge.Proofs.SlotAccess
