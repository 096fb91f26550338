import TradingPlatform.Theorems.OpenPositionCap
import TradingPlatform.Theorems.AccountWriterFence
import TradingPlatform.Theorems.ExitChain
import TradingPlatform.Theorems.FillConservation
import TradingPlatform.Theorems.EntryGap
import TradingPlatform.Theorems.EventReplay
import TradingPlatform.Theorems.ExchangeFirst
import TradingPlatform.Theorems.RuntimeControl
import TradingPlatform.Theorems.LeaseFencing
import TradingPlatform.Theorems.SlotClaim
import TradingPlatform.Theorems.FinalizeInOne
import TradingPlatform.Theorems.FillAttribution
import TradingPlatform.Theorems.NoLookAhead
import TradingPlatform.Theorems.GivenBack
import TradingPlatform.Theorems.ProtectionRecovery
import TradingPlatform.Theorems.OneDecision
import TradingPlatform.Theorems.ForwardReplay
import TradingPlatform.Theorems.BaselineKept
import TradingPlatform.Theorems.FillReceipts
import TradingPlatform.Theorems.AcknowledgedOrder
import TradingPlatform.Theorems.ForwardSeal
import TradingPlatform.Theorems.ConfirmedFlat
import TradingPlatform.Theorems.FillSet
import TradingPlatform.Theorems.CostGate
import TradingPlatform.Theorems.NoFillLost
import TradingPlatform.Theorems.EntrySizing
import TradingPlatform.Theorems.ProfitStops
import TradingPlatform.Theorems.DecisionExplained
import TradingPlatform.Theorems.ListingOrder
import TradingPlatform.Theorems.TelegramIngestion
import TradingPlatform.Theorems.NakedFill
import TradingPlatform.Theorems.ExitAttempts
import TradingPlatform.Theorems.StopRevisions
import TradingPlatform.Theorems.SameFacts
import TradingPlatform.Theorems.SamplingThrottle
import TradingPlatform.Theorems.ReplayAccounting
import TradingPlatform.Theorems.ReplayWindows
import TradingPlatform.Theorems.MultiTimeframe
import TradingPlatform.Theorems.ProposalReplay
import TradingPlatform.Theorems.ShadowPolicies
import TradingPlatform.Theorems.CarryHedge
import TradingPlatform.Theorems.NormalizedStop
import TradingPlatform.Theorems.LiveFeed
import TradingPlatform.Theorems.WalkForwardWindows
import TradingPlatform.Theorems.CandidateSelection
import TradingPlatform.Theorems.WeightedMean
import TradingPlatform.Theorems.EnsembleFairness
import TradingPlatform.Theorems.LegAccounts
import TradingPlatform.Theorems.SoundCandles
import TradingPlatform.Theorems.ResearchRegistry
import TradingPlatform.Theorems.CanonicalJson
import TradingPlatform.Theorems.ExitGeometry
import TradingPlatform.Theorems.KolCandidates
import TradingPlatform.Theorems.KolThreads
import TradingPlatform.Theorems.MaxDrawdown
import TradingPlatform.Theorems.NotificationOutbox
import TradingPlatform.Theorems.ConfigSnapshots
import TradingPlatform.Theorems.Gatekeeper
import TradingPlatform.Theorems.MarketDataHeartbeat
import TradingPlatform.Theorems.TradeEpisodes
import TradingPlatform.Theorems.OperatorProfile
