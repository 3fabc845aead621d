import BaseEngine.Lib.Run
import BaseEngine.Lib.Window
import BaseEngine.Lib.Json
import BaseEngine.Lib.Sha256
import BaseEngine.Provenance
import BaseEngine.BookUndo
import BaseEngine.SwapReorg
import BaseEngine.DailyAccounting
import BaseEngine.ProfitGates
import BaseEngine.TokenGates
import BaseEngine.EndToEnd
import BaseEngine.CanaryLimit
import BaseEngine.FlashblockOrder
import BaseEngine.FlashLoanContext
import BaseEngine.RouterPlays
import BaseEngine.RouterInventory
import BaseEngine.EntryAgreement
import BaseEngine.NonceUniqueness
import BaseEngine.DeniedAssessments
import BaseEngine.CircuitBreaker
import BaseEngine.VenueRouting
import BaseEngine.ConfigCompleteness
import BaseEngine.EventDecoding
import BaseEngine.SwapCalldata
import BaseEngine.TickMath
import BaseEngine.PriceStep
import BaseEngine.LoopDetection
import BaseEngine.BookLookup
import BaseEngine.PriceImpact
import BaseEngine.RiskHash
import BaseEngine.PrivateKey
import BaseEngine.FactoryScan
import BaseEngine.Hydration
import BaseEngine.DiscoveredBook
import BaseEngine.RouteEngine
import BaseEngine.ObservedLogs
import BaseEngine.Lib.Backoff
import BaseEngine.Lib.Fifo
import BaseEngine.StreamProtocol
import BaseEngine.StreamSessions
import BaseEngine.EngineFailures
import BaseEngine.EngineRestarts
import BaseEngine.SystemRuns
import BaseEngine.Lib.Table
import BaseEngine.LedgerFailures
import BaseEngine.LedgerUnseen
import BaseEngine.BookOrder
import BaseEngine.Drivers
