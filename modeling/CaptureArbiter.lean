import CaptureArbiter.Act
import CaptureArbiter.Arbiter
import CaptureArbiter.Backends
import CaptureArbiter.CallbackOperation
import CaptureArbiter.Catalog
import CaptureArbiter.CommandLine.Arguments
import CaptureArbiter.CommandLine.Run
import CaptureArbiter.Consent
import CaptureArbiter.Custody
import CaptureArbiter.Desk
import CaptureArbiter.DesktopId
import CaptureArbiter.Failure
import CaptureArbiter.Frames
import CaptureArbiter.Main
import CaptureArbiter.Media
import CaptureArbiter.Note
import CaptureArbiter.Number.Binary64
import CaptureArbiter.Number.Decimal
import CaptureArbiter.Number.FloatText
import CaptureArbiter.Number.IntegerText
import CaptureArbiter.Number.Shortest
import CaptureArbiter.Operation
import CaptureArbiter.Path.Folder
import CaptureArbiter.Path.Pattern
import CaptureArbiter.Proofs.Abandonments
import CaptureArbiter.Proofs.Accounts
import CaptureArbiter.Proofs.AtMostOnce
import CaptureArbiter.Proofs.Audit
import CaptureArbiter.Proofs.CanonicalIds
import CaptureArbiter.Proofs.Choices
import CaptureArbiter.Proofs.Claimed
import CaptureArbiter.Proofs.Conservation
import CaptureArbiter.Proofs.Decimals
import CaptureArbiter.Proofs.Decision
import CaptureArbiter.Proofs.Deferred
import CaptureArbiter.Proofs.DigitRuns
import CaptureArbiter.Proofs.Documents
import CaptureArbiter.Proofs.Ending
import CaptureArbiter.Proofs.Faults
import CaptureArbiter.Proofs.Furnished
import CaptureArbiter.Proofs.Handling
import CaptureArbiter.Proofs.Hearing
import CaptureArbiter.Proofs.History
import CaptureArbiter.Proofs.Keeps
import CaptureArbiter.Proofs.Kinds
import CaptureArbiter.Proofs.LiveFrames
import CaptureArbiter.Proofs.LowerCase
import CaptureArbiter.Proofs.MainFile
import CaptureArbiter.Proofs.Names
import CaptureArbiter.Proofs.Origins
import CaptureArbiter.Proofs.OverlongIds
import CaptureArbiter.Proofs.Ownership
import CaptureArbiter.Proofs.Paths
import CaptureArbiter.Proofs.Phases
import CaptureArbiter.Proofs.Privilege
import CaptureArbiter.Proofs.Quiet
import CaptureArbiter.Proofs.Readings
import CaptureArbiter.Proofs.Received
import CaptureArbiter.Proofs.Registered
import CaptureArbiter.Proofs.Registrations
import CaptureArbiter.Proofs.Release
import CaptureArbiter.Proofs.Reported
import CaptureArbiter.Proofs.RequestSpellings
import CaptureArbiter.Proofs.Respelled
import CaptureArbiter.Proofs.Schema
import CaptureArbiter.Proofs.Sent
import CaptureArbiter.Proofs.SourceGrammar
import CaptureArbiter.Proofs.Spent
import CaptureArbiter.Proofs.Stable
import CaptureArbiter.Proofs.Surroundings
import CaptureArbiter.Proofs.Updates
import CaptureArbiter.Proofs.ValidSettings
import CaptureArbiter.Proofs.Verdict
import CaptureArbiter.Proofs.Written
import CaptureArbiter.Proofs.WrittenBack
import CaptureArbiter.Registry
import CaptureArbiter.Request
import CaptureArbiter.Screen
import CaptureArbiter.Selection
import CaptureArbiter.Settings.Check
import CaptureArbiter.Settings.Document
import CaptureArbiter.Settings.Load
import CaptureArbiter.Settings.Service
import CaptureArbiter.Text.CharacterClass
import CaptureArbiter.Text.LetterCase
import CaptureArbiter.Text.LetterCase.Table
import CaptureArbiter.Text.Printable
import CaptureArbiter.Text.Quoted
import CaptureArbiter.Text.Split
import CaptureArbiter.Value.Basic
import CaptureArbiter.Value.Reading
import CaptureArbiter.Value.Stamp
import CaptureArbiter.Yaml.Cursor
import CaptureArbiter.Yaml.Document
import CaptureArbiter.Yaml.Node.Reader
import CaptureArbiter.Yaml.Node.Value
import CaptureArbiter.Yaml.Scalar
import CaptureArbiter.Yaml.Scalar.Value
import CaptureArbiter.Yaml.Token.Lexer
import CaptureArbiter.Yaml.Token.Property
import CaptureArbiter.Yaml.Token.ScalarText
