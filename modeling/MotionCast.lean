import MotionCast.Bytes
import MotionCast.Capture.Audience
import MotionCast.Capture.Basic
import MotionCast.Capture.Config
import MotionCast.Capture.Crew
import MotionCast.Capture.Error
import MotionCast.Capture.Extractor
import MotionCast.Capture.Frame
import MotionCast.Capture.LossTracker
import MotionCast.Capture.Metrics
import MotionCast.Capture.MissedTicks
import MotionCast.Capture.Pacing
import MotionCast.Capture.Reader
import MotionCast.Capture.ReaderTrial
import MotionCast.Capture.Recovery
import MotionCast.Capture.Replay
import MotionCast.Capture.Rig
import MotionCast.Capture.ScanPeriod
import MotionCast.Capture.Wiring
import MotionCast.Capture.Worker
import MotionCast.Capture.WorkerTrial
import MotionCast.Channel.Feed
import MotionCast.Channel.Mailbox
import MotionCast.Channel.Signal
import MotionCast.Cli.Args
import MotionCast.Cli.Options
import MotionCast.Cli.Transcript
import MotionCast.Cli.Usage
import MotionCast.Device.Error
import MotionCast.Device.File
import MotionCast.Device.FileTree
import MotionCast.Device.Script
import MotionCast.Device.Spec
import MotionCast.Device.Transport
import MotionCast.Main
import MotionCast.Proofs.Sampling.Cadence
import MotionCast.Proofs.Sampling.Feeding
import MotionCast.Proofs.Server.Clients
import MotionCast.Proofs.Server.Eviction
import MotionCast.Proofs.Server.FanOut
import MotionCast.Proofs.Server.Hearing
import MotionCast.Proofs.Server.Lifecycle
import MotionCast.Proofs.Server.Steps
import MotionCast.Proofs.Wire.DataAnswer
import MotionCast.Proofs.Wire.Fields
import MotionCast.Proofs.Wire.Sealing
import MotionCast.Sampling.Adapter
import MotionCast.Sampling.Calibrator
import MotionCast.Sampling.Config
import MotionCast.Sampling.LiveAdapter
import MotionCast.Sampling.Report
import MotionCast.Sampling.Sampler
import MotionCast.Server.Basic
import MotionCast.Server.Config
import MotionCast.Server.Endpoint
import MotionCast.Server.Error
import MotionCast.Server.Registry
import MotionCast.Server.State
import MotionCast.Text.Blank
import MotionCast.Text.Hex
import MotionCast.Text.Lines
import MotionCast.Text.Numeral
import MotionCast.Text.Scientific
import MotionCast.Time
import MotionCast.Wire.Answer
import MotionCast.Wire.Checksum
import MotionCast.Wire.Event
import MotionCast.Wire.Header
import MotionCast.Wire.Motion
import MotionCast.Wire.Request
import MotionCast.Wire.Slot
import MotionCast.Proofs.Wire.Register
import MotionCast.Proofs.Wire.Corruption
import MotionCast.Proofs.Sampling.Clock
import MotionCast.Proofs.Wire.Answers
import MotionCast.Proofs.Wire.Grammar
import MotionCast.Proofs.Server.Answering
import MotionCast.Proofs.Capture.Observations
import MotionCast.Proofs.Capture.RateLimit
import MotionCast.Proofs.Capture.Agreement
import MotionCast.Proofs.Sampling.Demands
import MotionCast.Proofs.Sampling.Live
import MotionCast.Proofs.Wire.Stamping
import MotionCast.Proofs.Capture.Runs
import MotionCast.Proofs.Capture.Rollback
import MotionCast.Proofs.Capture.Reading
import MotionCast.Proofs.Capture.Delivering
import MotionCast.Proofs.Capture.Streaming
import MotionCast.Proofs.Capture.Playback
import MotionCast.Proofs.Wire.Requests
import MotionCast.Proofs.Channel.Chronicle
import MotionCast.Proofs.Channel.Exchange
import MotionCast.Proofs.Channel.Gallery
import MotionCast.Proofs.Channel.Viewers
import MotionCast.Proofs.Capture.Seating
import MotionCast.Proofs.Capture.Churn
import MotionCast.Proofs.Capture.Bystanders
import MotionCast.Proofs.Wire.Integrity
import MotionCast.Proofs.Wire.InPlace
import MotionCast.Proofs.Wire.AnswerGrammar
import MotionCast.Proofs.Server.Bookkeeping
import MotionCast.Proofs.Sampling.Queue
import MotionCast.Proofs.Wire.HeaderCodec
import MotionCast.Proofs.Capture.Framing
import MotionCast.Proofs.Capture.Corrections
import MotionCast.Proofs.Capture.Attribution
import MotionCast.Proofs.Capture.Interleaving
import MotionCast.Proofs.Capture.Gaps
import MotionCast.Proofs.Capture.Abandonment
import MotionCast.Proofs.Sampling.Recording
import MotionCast.Proofs.Sampling.Layout
import MotionCast.Proofs.Capture.Modes
