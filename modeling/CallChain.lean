import CallChain.Main
import CallChain.Proofs.Document.Binding
import CallChain.Proofs.Document.Replay
import CallChain.Proofs.Document.Decoded
import CallChain.Proofs.Document.Accounted
import CallChain.Proofs.Reference.Preserved
import CallChain.Proofs.Session.FailFast
import CallChain.Proofs.Session.FanOut
import CallChain.Proofs.Session.Independent
import CallChain.Proofs.Session.Reached
import CallChain.Proofs.Session.Nested
import CallChain.Proofs.Session.InProgress
import CallChain.Proofs.Session.Withdrawn
import CallChain.Proofs.Request.Raised
import CallChain.Proofs.Session.Escapes
import CallChain.Proofs.Session.Reported
import CallChain.Proofs.Session.EarlierOnly
import CallChain.Proofs.Document.Exported
import CallChain.Proofs.Session.Refused
import CallChain.Proofs.CommandLine.Status
import CallChain.Proofs.Request.Inserted
import CallChain.Proofs.Reference.Reversible
import CallChain.Proofs.Request.Path
import CallChain.Proofs.Request.Query
import CallChain.Proofs.Request.Unresolved
import CallChain.Proofs.Reference.Interpolated
import CallChain.Proofs.Session.Suggested
import CallChain.Proofs.Report.Flattened
import CallChain.Proofs.Report.Declared
import CallChain.Proofs.Report.ReadBack
import CallChain.Proofs.Report.Grid
import CallChain.Proofs.Catalog.Unique
import CallChain.Proofs.Document.Edited
import CallChain.Proofs.TokenStore
import CallChain.Proofs.Session.LocalNames
import CallChain.Proofs.Session.Replies
import CallChain.Proofs.Settings
