import WeatherBot.Common.Except
import WeatherBot.Common.Action
import WeatherBot.Common.Routine
import WeatherBot.Common.Dict
import WeatherBot.Common.Extremum
import WeatherBot.Common.FirstBy
import WeatherBot.Common.HashChain
import WeatherBot.Common.Decimal
import WeatherBot.Common.Text
import WeatherBot.Common.Calendar
import WeatherBot.Common.Json
import WeatherBot.Common.JsonText
import WeatherBot.Common.JsonFloat
import WeatherBot.Common.JsonCut
import WeatherBot.Common.Bytes
import WeatherBot.Domain.Basic
import WeatherBot.Domain.Money
import WeatherBot.Domain.Model
import WeatherBot.Domain.Evidence
import WeatherBot.Domain.Risk
import WeatherBot.Domain.Events
import WeatherBot.Domain.Canonical
import WeatherBot.Domain.State
import WeatherBot.Domain.Reducers
import WeatherBot.Domain.Invariants
import WeatherBot.Domain.Step
import WeatherBot.Ledger.Run
import WeatherBot.Ledger.Conservation
import WeatherBot.Ledger.CostBasis
import WeatherBot.Ledger.Reservation
import WeatherBot.Ledger.Lifecycle
import WeatherBot.Ledger.Settlement
import WeatherBot.Ledger.Confluence
import WeatherBot.Ledger.History
import WeatherBot.Ledger.Redelivery
import WeatherBot.Ledger.Permanence
import WeatherBot.Ledger.Observations
import WeatherBot.Ledger.Fills
import WeatherBot.Ledger.Fees
import WeatherBot.Ledger.SellReservation
import WeatherBot.Ledger.Identifiers
import WeatherBot.Persistence.Codec
import WeatherBot.Persistence.RoundTrip
import WeatherBot.Persistence.Store
import WeatherBot.Persistence.Chain
import WeatherBot.Persistence.Append
import WeatherBot.Persistence.Decisions
import WeatherBot.Persistence.Tamper
import WeatherBot.Producer.Signal
import WeatherBot.Pip.SignalLog
import WeatherBot.Pip.TornLog
import WeatherBot.Pip.Publication
import WeatherBot.Pip.Publishing
import WeatherBot.Pip.Published
import WeatherBot.Common.Table
import WeatherBot.Pip.Outbox
import WeatherBot.Pip.Envelope
import WeatherBot.Pip.Leases
import WeatherBot.Common.PyObject
import WeatherBot.Common.PyValue
import WeatherBot.Pip.Delivery
import WeatherBot.Common.JsonIndent
import WeatherBot.Common.Lines
import WeatherBot.Common.DecimalContext
import WeatherBot.Forecasting.Sample
import WeatherBot.Forecasting.Dataset
import WeatherBot.Forecasting.Artifact
import WeatherBot.Forecasting.Loader
import WeatherBot.Forecasting.RoundTrip
import WeatherBot.Common.Number
import WeatherBot.Common.Float
import WeatherBot.Common.Cells
import WeatherBot.Common.DecimalValue
import WeatherBot.Common.DecimalQuotient
import WeatherBot.Common.Ladder
import WeatherBot.Common.PairSums
import WeatherBot.Common.ReducedDecimal
import WeatherBot.Common.IntervalPartition
import WeatherBot.Common.ExactNumerics
import WeatherBot.Markets.OrderBook
import WeatherBot.Markets.Quotes
import WeatherBot.Markets.Temperature
import WeatherBot.Markets.TemperatureIntervals
import WeatherBot.Markets.Partition
import WeatherBot.Forecasting.Estimate
import WeatherBot.Forecasting.Fit
import WeatherBot.Forecasting.FitOrder
import WeatherBot.Forecasting.DatasetOrder
import WeatherBot.Forecasting.RowOrder
import WeatherBot.Forecasting.Scores
import WeatherBot.Forecasting.BucketProbability
import WeatherBot.Forecasting.ArtifactLoader
import WeatherBot.Forecasting.ArtifactRoundTrip
import WeatherBot.Quoting.Model
import WeatherBot.Quoting.Evaluator
import WeatherBot.Quoting.Exact
import WeatherBot.Risk.Sizing
import WeatherBot.Risk.Approval
import WeatherBot.Risk.SizingBounds
import WeatherBot.Risk.SlippageCap
import WeatherBot.Paper.Valuation
import WeatherBot.Paper.Status
import WeatherBot.Paper.Recording
import WeatherBot.Paper.Intent
import WeatherBot.Resolution.Context
import WeatherBot.Resolution.Wunderground
import WeatherBot.Resolution.Capture
import WeatherBot.Risk.DailyLoss
import WeatherBot.Risk.PortfolioPolicy
import WeatherBot.Risk.ExposureSteps
import WeatherBot.Persistence.RiskCommit
import WeatherBot.Persistence.Integrity
import WeatherBot.Risk.Caps
import WeatherBot.Persistence.Gate
import WeatherBot.Persistence.RiskOutcome
