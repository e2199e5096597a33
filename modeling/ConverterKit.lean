import ConverterKit.Pool.Plan
import ConverterKit.Text.Hex
import ConverterKit.Config.Basic
import ConverterKit.Config.Folder
import ConverterKit.Config.Render
import ConverterKit.Resolution.Callback
import ConverterKit.Resolution.Directory
import ConverterKit.Resolution.IdCache
import ConverterKit.Resolution.Resolver
import ConverterKit.Scratch.Buffer
import ConverterKit.Scratch.Routine
import ConverterKit.Scratch.World
import ConverterKit.Trial.Message
import ConverterKit.Trial.Workers
import ConverterKit.Proofs.Pool.Conservation
import ConverterKit.Proofs.Pool.Counters
import ConverterKit.Proofs.Pool.Usage
import ConverterKit.Proofs.Pool.Custody
import ConverterKit.Proofs.Pool.Kinds
import ConverterKit.Proofs.Pool.Order
import ConverterKit.Proofs.Pool.Setback
import ConverterKit.Proofs.Pool.Demand
import ConverterKit.Proofs.Pool.Guards
import ConverterKit.Proofs.Pool.Availability
import ConverterKit.Proofs.Resolution.Transparency
import ConverterKit.Proofs.Resolution.Freshness
import ConverterKit.Proofs.Resolution.ChangeCount
import ConverterKit.Proofs.Resolution.Superseded
import ConverterKit.Proofs.Scratch.Independence
import ConverterKit.Proofs.Scratch.AtRest
import ConverterKit.Proofs.Scratch.Cleanliness
import ConverterKit.Proofs.Scratch.Capacity
import ConverterKit.Proofs.Config.Layers
import ConverterKit.Proofs.Config.RoundTrip
import ConverterKit.Proofs.Config.Overrides
import ConverterKit.Proofs.Binary64.Rounding
import ConverterKit.Proofs.Pool.HitRate
import ConverterKit.Proofs.Pool.Reports
import ConverterKit.Proofs.Resolution.Failures
