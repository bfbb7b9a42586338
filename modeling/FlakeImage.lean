import FlakeImage.Main
import FlakeImage.Build.Output
import FlakeImage.Rehearsal.Session
import FlakeImage.Timeline.Cancellation
import FlakeImage.Proofs.Work
import FlakeImage.Proofs.Response
import FlakeImage.Proofs.Attempt
import FlakeImage.Proofs.Frame
import FlakeImage.Proofs.Exchange
import FlakeImage.Proofs.Course
import FlakeImage.Proofs.Truncation
import FlakeImage.Proofs.Delivery
import FlakeImage.Proofs.Utf8
import FlakeImage.Proofs.Literal
import FlakeImage.Proofs.Messages
import FlakeImage.Proofs.Retry
import FlakeImage.Proofs.Budget
import FlakeImage.Proofs.Recovery
import FlakeImage.Proofs.Failure
import FlakeImage.Proofs.Lines
import FlakeImage.Proofs.ExitCode
import FlakeImage.Proofs.Completion
import FlakeImage.Proofs.Ledger
import FlakeImage.Proofs.Configuration
import FlakeImage.Proofs.Interruption
import FlakeImage.Proofs.Signals
import FlakeImage.Proofs.Spelling
import FlakeImage.Proofs.Numeral
import FlakeImage.Proofs.Grammar
import FlakeImage.Proofs.Decoding
import FlakeImage.Proofs.Trimming
import FlakeImage.Proofs.Precedence
import FlakeImage.Proofs.Targets
import FlakeImage.Proofs.Encoding
import FlakeImage.Proofs.StrictReading
import FlakeImage.Proofs.RoundTrip
import FlakeImage.Proofs.Refusal
import FlakeImage.Proofs.Channels
import FlakeImage.Proofs.Causes
import FlakeImage.Proofs.DefaultTag
import FlakeImage.Proofs.FirstLine
import FlakeImage.Proofs.Pieces
import FlakeImage.Proofs.OutputPath
import FlakeImage.Proofs.Quoting
