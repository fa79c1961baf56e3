import ZeroProtocol.Lib.Revert
import ZeroProtocol.Lib.Loop
import ZeroProtocol.Lib.PointerList
import ZeroProtocol.Lib.FixedPoint
import ZeroProtocol.Lib.RoundingError
import ZeroProtocol.Dependencies.LiquityMath
import ZeroProtocol.Dependencies.LiquityBase
import ZeroProtocol.SortedTroves.Model
import ZeroProtocol.SortedTroves.Invariant
import ZeroProtocol.TroveManager.Fees
import ZeroProtocol.Lib.Ledger
import ZeroProtocol.Pools
import ZeroProtocol.ZERO.CommunityIssuance
import ZeroProtocol.StabilityPool.Storage
import ZeroProtocol.TroveManager.Storage
import ZeroProtocol.System.State
import ZeroProtocol.TroveManager.Base
import ZeroProtocol.StabilityPool.Model
import ZeroProtocol.TroveManager.Liquidations
import ZeroProtocol.TroveManager.Redemptions
import ZeroProtocol.BorrowerOperations
import ZeroProtocol.System.Step
import ZeroProtocol.System.CallSpecs
import ZeroProtocol.TroveManager.PendingRewards
import ZeroProtocol.StabilityPool.Solvency
import ZeroProtocol.TroveManager.LiquidationAccounting
import ZeroProtocol.TroveManager.Stakes
import ZeroProtocol.TroveManager.Eligibility
import ZeroProtocol.TroveManager.LiquidationTCR
import ZeroProtocol.ZERO.ZEROStaking
import ZeroProtocol.LibBase.Trove
import ZeroProtocol.BorrowerOperations.Records
import ZeroProtocol.System.ClosedTroves
import ZeroProtocol.LibBase.Refinement
import ZeroProtocol.HintHelpers
import ZeroProtocol.LibBase.Fees
import ZeroProtocol.Lib.DigitString
import ZeroProtocol.LibBase.Decimal
import ZeroProtocol.DevFrontend.ValidateTroveChange
import ZeroProtocol.StabilityPool.Compounding
import ZeroProtocol.System.Totals
import ZeroProtocol.System.Deposits
import ZeroProtocol.TroveManager.CallRules
import ZeroProtocol.System.ActiveTroves
import ZeroProtocol.BorrowerOperations.Frame
import ZeroProtocol.System.SurplusPool
import ZeroProtocol.Lib.IndexedArray
import ZeroProtocol.System.OwnersArray
import ZeroProtocol.System.RedemptionValue
import ZeroProtocol.System.FeeState
