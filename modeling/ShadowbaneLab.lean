import ShadowbaneLab.Client.Payloads
import ShadowbaneLab.Native.Spending
import ShadowbaneLab.Native.CondemnRuns
import ShadowbaneLab.Client.VendorBatchFates
import ShadowbaneLab.Client.CondemnTransaction
import ShadowbaneLab.Sim.RelationTotality
import ShadowbaneLab.Sim.Cancellation
import ShadowbaneLab.Sim.Death
import ShadowbaneLab.Sim.Restoring
import ShadowbaneLab.Sim.Detachment
import ShadowbaneLab.Travel.FollowerRuns
import ShadowbaneLab.Travel.Approach
import ShadowbaneLab.Travel.Deferral
import ShadowbaneLab.Travel.Corridor
import ShadowbaneLab.Travel.Learning
import ShadowbaneLab.Travel.Refinement
import ShadowbaneLab.Native.ApplicationJournal
import ShadowbaneLab.Native.ActivationRuns
import ShadowbaneLab.Native.MovementAgreement
import ShadowbaneLab.Journal.CondemnEvidence
import ShadowbaneLab.Journal.Spending
import ShadowbaneLab.Sim.Mortality
import ShadowbaneLab.Sim.Upkeep
import ShadowbaneLab.Channel.EventProgress
import ShadowbaneLab.Pve.PreparationLedgers
import ShadowbaneLab.Guard.StopFinal
import ShadowbaneLab.Guard.Fairness
import ShadowbaneLab.Manager.OperationIngress
import ShadowbaneLab.Manager.WorkerRuntime
import ShadowbaneLab.Channel.CommandDrain
import ShadowbaneLab.Client.PatchResources
import ShadowbaneLab.Client.TextureResults
import ShadowbaneLab.Native.MovementAcquisitions
import ShadowbaneLab.Optimization.MapElitesRuns
import ShadowbaneLab.World.TerrainAlpha
