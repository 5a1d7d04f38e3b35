import Simutgw.Logic.Runs
import Simutgw.PreTrade
import Simutgw.MatchTask
import Simutgw.Proofs.MatchSteps
import Simutgw.Proofs.ReportDelivery
import Simutgw.Proofs.DecimalText
import Simutgw.Proofs.VolumeLedger
import Simutgw.Proofs.SellReserve
import Simutgw.Proofs.QuoteConservation
import Simutgw.Proofs.EtfSettlement
import Simutgw.Proofs.CancelRouting
import Simutgw.Proofs.OrderRepeat
import Simutgw.Proofs.PoolSize
import Simutgw.Proofs.QuoteIssue
import Simutgw.Proofs.CircleCapacity
import Simutgw.Proofs.SettlementRun
import Simutgw.Proofs.CacheSync
import Simutgw.Proofs.OrderPolling
import Simutgw.Proofs.ReportOutlet
import Simutgw.Proofs.ReportIndex
import Simutgw.Logic.Lines
import Simutgw.Logic.Sections
import Simutgw.Logic.Overlay
import Simutgw.Logic.Digits
import Simutgw.Logic.Numeral
import Simutgw.ValideRecordOrder
import Simutgw.Proofs.FreezeUndone
import Simutgw.Proofs.OrderOutcome
import Simutgw.Proofs.OrderPrecedence
import Simutgw.Proofs.CancelPrecedence
import Simutgw.Proofs.FrozenRelease
import Simutgw.Proofs.MatchVerdict
import Simutgw.Proofs.VolumeRun
import Simutgw.Proofs.CreationFreeze
import Simutgw.Proofs.VolumeConfirm
import Simutgw.Proofs.OrderQuantities
import Simutgw.Proofs.BinaryFraming
import Simutgw.Proofs.BinaryStream
import Simutgw.Proofs.BinaryCheckSum
import Simutgw.Proofs.RuleExpression
import Simutgw.Proofs.RuleLookup
import Simutgw.Proofs.RuleReplacement
import Simutgw.Proofs.RuleReload
import Simutgw.Proofs.PrintedWords
import Simutgw.Proofs.MoneyText
import Simutgw.Proofs.DoubleText
import Simutgw.Proofs.EtfBaskets
import Simutgw.Proofs.EtfFile
import Simutgw.Proofs.PartFill
import Simutgw.Proofs.QuoteTrades
import Simutgw.Proofs.DividedFill
import Simutgw.Proofs.PacketScan
import Simutgw.Proofs.PacketStream
import Simutgw.Proofs.PacketRoundTrip
import Simutgw.Proofs.PacketGarbage
import Simutgw.Proofs.PriceTimeOrder
import Simutgw.Proofs.TieOrder
import Simutgw.Proofs.TaskConservation
import Simutgw.Proofs.RowNumbers
import Simutgw.Proofs.PollSteps
import Simutgw.Proofs.DayEndMove
import Simutgw.TradePolicyManage
import Simutgw.Proofs.PolicyLookup
import Simutgw.Proofs.WriteBackFailure
import Simutgw.SzStepOrderHelper
import Simutgw.Proofs.AcceptedOrders
import Simutgw.Proofs.AssetSettlement
import Simutgw.Proofs.CreationPaths
import Simutgw.Proofs.CashCap
import Simutgw.Proofs.TradeTypes
import Simutgw.Proofs.CalendarStamps
import Simutgw.Proofs.ReplaceAll
import Simutgw.Proofs.SignedMoney
import Simutgw.Proofs.TextEncoding
import Simutgw.AStockQuotationHelper
import Simutgw.Proofs.FailedPreparation
import Simutgw.Proofs.FlatObjects
import Simutgw.Proofs.QuoteIsolation
import Simutgw.Proofs.QuoteText
import Simutgw.Proofs.PriceLimits
import Simutgw.SystemCounter
import Simutgw.Proofs.CounterLaw
import Simutgw.Logic.SqlText
import Simutgw.ReportSql
import Simutgw.ReportPass
import Simutgw.Proofs.ReportStatements
import Simutgw.Proofs.RuledTrades
import Simutgw.Proofs.PacketCheck
import Simutgw.Proofs.PipeLineOrder
import Simutgw.Proofs.ConnectionBuffers
import Simutgw.Proofs.SendStream
import Simutgw.Proofs.SessionPasses
import Simutgw.Proofs.SendPriority
