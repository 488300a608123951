import NabuIris.Proof.QueueOccupancy
import NabuIris.Proof.QueueFifo
import NabuIris.Proof.QueueDrain
import NabuIris.Proof.RingBounds
import NabuIris.Proof.PowerBalance
import NabuIris.Proof.PowerUnwind
import NabuIris.Proof.CoreResources
import NabuIris.Proof.OpenRecovery
import NabuIris.Proof.Readiness
import NabuIris.Proof.Ownership
import NabuIris.Proof.StartRollback
import NabuIris.Proof.HoldBack
import NabuIris.Proof.SourceChangeRoundTrip
import NabuIris.Proof.AdmissionBudget
import NabuIris.Proof.DeferredRecovery
import NabuIris.Proof.RecoveryRequests
import NabuIris.Proof.OpenAwake
import NabuIris.Proof.StopReports
import NabuIris.Proof.InternalRelease
import NabuIris.Proof.PacketLifetime
import NabuIris.Proof.MessageBounds
import NabuIris.Proof.Interference
import NabuIris.Proof.EventRouting
import NabuIris.Proof.ChangedProperties
import NabuIris.Proof.DrainGuard
import NabuIris.Proof.SectionRuns
import NabuIris.Proof.SessionTurns
import NabuIris.Proof.SessionRules
import NabuIris.Proof.FlushAccounting
import NabuIris.Proof.SessionStates
import NabuIris.Proof.StateRuns
import NabuIris.Proof.LastBuffers
import NabuIris.Proof.CommandMatching
import NabuIris.Proof.SelectionFreshness
import NabuIris.Proof.SessionRouting
import NabuIris.Proof.TimestampMetadata
import NabuIris.Proof.FenceOrdering
import NabuIris.Proof.InterconnectVotes
import NabuIris.Proof.PmReferences
import NabuIris.Proof.ClockVotes
import NabuIris.Proof.SliceBalance
import NabuIris.Proof.FenceLifecycle
import NabuIris.Proof.NegotiatedSizes
import NabuIris.Proof.DpbTags
import NabuIris.Proof.BuiltMessages
import NabuIris.Proof.ClockEstimate
import NabuIris.Proof.RateHysteresis
import NabuIris.Proof.CorruptOutputs
import NabuIris.Proof.PropertySizes
import NabuIris.Proof.FirmwareSizes
import NabuIris.Proof.MessageLayout
import NabuIris.Proof.ResponseOrder
import NabuIris.Proof.ShortProperties
import NabuIris.Proof.MeasuredRate
import NabuIris.Proof.CaptureLayout
import NabuIris.Proof.VpuBufferSizes
import NabuIris.Proof.BitstreamSizes
import NabuIris.Proof.VideoCoreBalance
import NabuIris.Proof.EncoderGeometry
import NabuIris.Proof.StreamRates
import NabuIris.Proof.MetadataIndex
import NabuIris.Proof.TryFormat
import NabuIris.InterruptLine
import NabuIris.Lib.Parts
import NabuIris.Proof.InterruptBalance
import NabuIris.Proof.SharedQueues
import NabuIris.Controls
import NabuIris.Lib.Journal
import NabuIris.PipeFrequency
import NabuIris.Proof.ColourRoundTrip
import NabuIris.Proof.CommandMessages
import NabuIris.Proof.ControlValues
import NabuIris.Proof.CreatedControls
import NabuIris.Proof.PipeDivision
import NabuIris.Proof.SubscriptionOrder
import NabuIris.EncoderBuffers
import NabuIris.Proof.EncoderBufferSizes
import NabuIris.Gen1Commands
import NabuIris.Lib.Wire
import NabuIris.Proof.CommandDelivery
import NabuIris.Proof.MessageDelivery
