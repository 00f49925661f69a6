import A2dp.Main
import A2dp.Probe.Workspace
import A2dp.Registry.Query
import A2dp.Proofs.Header
import A2dp.Proofs.Reading
import A2dp.Proofs.Capability
import A2dp.Proofs.Lookup
import A2dp.Proofs.Grammar
import A2dp.Proofs.Equality
import A2dp.Proofs.Answers
import A2dp.Proofs.Adjustment
import A2dp.Proofs.AdjustedReport
import A2dp.Proofs.Reserved
import A2dp.Proofs.Bits
import A2dp.Proofs.NormalReading
import A2dp.Proofs.Preservation
import A2dp.Proofs.CanonicalForm
import A2dp.Proofs.DefaultEndpoint
import A2dp.Proofs.Selection
import A2dp.Proofs.SinkSupport
import A2dp.Proofs.Advertisement
import A2dp.Proofs.AnnouncedOctets
import A2dp.Proofs.Numbers
import A2dp.Proofs.EveryFamily
import A2dp.Proofs.Locality
import A2dp.Proofs.PacketRuns
import A2dp.Proofs.EndpointRuns
import A2dp.Proofs.StreamNumbers
import A2dp.Proofs.HeaderWriting
import A2dp.Proofs.Verdicts
import A2dp.Proofs.DirectAccess
import A2dp.Proofs.AccessInRange
import A2dp.Proofs.Diagnostics
import A2dp.Proofs.HexGrammar
import A2dp.Proofs.DescribedConfigurations
import A2dp.Proofs.NumeralOrder
import A2dp.Proofs.Description
