import DoughAnalyzer.Bench.Basic
import DoughAnalyzer.Checksum
import DoughAnalyzer.Config
import DoughAnalyzer.Identity
import DoughAnalyzer.Link.Credentials
import DoughAnalyzer.Store.Handles
import DoughAnalyzer.Proofs.Checksum
import DoughAnalyzer.Proofs.RunningChecksum
import DoughAnalyzer.Proofs.Wire.TopicNames
import DoughAnalyzer.Proofs.Wire.Chunk
import DoughAnalyzer.Proofs.Store.Account
import DoughAnalyzer.Proofs.Update.BootSwitch
import DoughAnalyzer.Proofs.Update.Reboot
import DoughAnalyzer.Proofs.Update.TimeLimits
import DoughAnalyzer.Proofs.Update.StallWarnings
import DoughAnalyzer.Proofs.Update.NoticeStream
import DoughAnalyzer.Proofs.Update.Pieces
import DoughAnalyzer.Proofs.Update.Transfer
import DoughAnalyzer.Proofs.Update.Residue
import DoughAnalyzer.Proofs.Update.Interruption
import DoughAnalyzer.Proofs.Update.Rejection
import DoughAnalyzer.Proofs.Update.Teardown
import DoughAnalyzer.Proofs.Update.Throttling
import DoughAnalyzer.Proofs.Update.Arithmetic
import DoughAnalyzer.Proofs.Controller.Course
import DoughAnalyzer.Proofs.Controller.Sleep
import DoughAnalyzer.Proofs.Controller.Confirmation
import DoughAnalyzer.Proofs.Controller.SlotOpening
import DoughAnalyzer.Proofs.Controller.PhaseTable
import DoughAnalyzer.Proofs.Controller.ReadingPath
import DoughAnalyzer.Proofs.Controller.Restarts
import DoughAnalyzer.Proofs.Controller.Resubscription
import DoughAnalyzer.Proofs.Controller.Outage
import DoughAnalyzer.Proofs.Controller.PublishResults
import DoughAnalyzer.Proofs.Controller.Recount
import DoughAnalyzer.Proofs.Controller.Sifting
import DoughAnalyzer.Proofs.Controller.JunkFrames
import DoughAnalyzer.Proofs.Controller.EventTrace
import DoughAnalyzer.Proofs.Controller.Isolation
import DoughAnalyzer.Proofs.Document.Number
import DoughAnalyzer.Proofs.Document.Grammar
import DoughAnalyzer.Proofs.Document.Value
import DoughAnalyzer.Proofs.Document.Object
import DoughAnalyzer.Proofs.Config
import DoughAnalyzer.Proofs.Wire.Announcement
import DoughAnalyzer.Proofs.Link.History
import DoughAnalyzer.Proofs.Link.RetryBudget
import DoughAnalyzer.Proofs.Link.Agreement
import DoughAnalyzer.Proofs.Inbox
import DoughAnalyzer.Proofs.Battery
import DoughAnalyzer.Proofs.Sensing
