import SwitchService.Foundation.Number
import SwitchService.Foundation.NumberText
import SwitchService.Foundation.JsonNumber
import SwitchService.Foundation.Double
import SwitchService.Foundation.Program
import SwitchService.Foundation.Runs
import SwitchService.Foundation.Interleaving
import SwitchService.Foundation.Simulation
import SwitchService.Foundation.EventStream
import SwitchService.Foundation.Utf16
import SwitchService.Foundation.Lease
import SwitchService.Foundation.Redis
import SwitchService.Foundation.RedisStream
import SwitchService.Foundation.RedisScan
import SwitchService.Foundation.Ordering
import SwitchService.Foundation.OrderStatistic
import SwitchService.Foundation.FirstOfKey
import SwitchService.Foundation.GroupCount
import SwitchService.Foundation.Validation
import SwitchService.Domain.Types
import SwitchService.Config
import SwitchService.Domain.Breaker
import SwitchService.Domain.BreakerRuns
import SwitchService.Domain.Window
import SwitchService.Domain.KeySpace
import SwitchService.Domain.Percentile
import SwitchService.Domain.Scoring
import SwitchService.Domain.Selection
import SwitchService.Domain.Ranking
import SwitchService.Domain.NearestRank
import SwitchService.Domain.Canonical
import SwitchService.Domain.Dominance
import SwitchService.Domain.ScoreRange
import SwitchService.Domain.Exploration
import SwitchService.Store.Buckets
import SwitchService.Store.World
import SwitchService.Store.Calls
import SwitchService.Store.WindowStore
import SwitchService.Store.WindowSeries
import SwitchService.Store.WindowHistory
import SwitchService.Store.WindowGain
import SwitchService.Store.BreakerStore
import SwitchService.Store.Refinement
import SwitchService.Store.Backend
import SwitchService.Store.Timed
import SwitchService.Store.Represents
import SwitchService.Repositories.ChannelRepository
import SwitchService.Repositories.ChannelWrites
import SwitchService.Consumer.OutcomeEvent
import SwitchService.Consumer.OutcomeHandler
import SwitchService.Consumer.Retry
import SwitchService.Consumer.OutcomeConsumer
import SwitchService.Consumer.Hand
import SwitchService.Consumer.ClaimPass
import SwitchService.Server
import SwitchService.Consumer.Footprint
import SwitchService.Services.RoutingService
import SwitchService.Services.RoutingRun
import SwitchService.Services.RouteStored
import SwitchService.Services.Admission
import SwitchService.Services.RouteAnswer
import SwitchService.Services.Availability
import SwitchService.Services.DecisionRecord
import SwitchService.Services.ChannelHealth
import SwitchService.Services.DecisionLog
import SwitchService.Services.ContractStatus
import SwitchService.Runs.ContractCache
import SwitchService.Services.AdminService
import SwitchService.Runs.System
import SwitchService.Runs.ChannelCache
import SwitchService.Runs.Recovery
import SwitchService.Runs.OpeningRate
import SwitchService.Runs.ProbeOwner
import SwitchService.Runs.Concurrent
import SwitchService.Runs.RedisPool
import SwitchService.Runs.RedisReads
import SwitchService.Runs.RedisKeys
import SwitchService.Runs.Leases
import SwitchService.Runs.LostUpdate
import SwitchService.Runs.AtMostOnce
import SwitchService.Runs.DecisionLog
import SwitchService.Runs.Acknowledge
import SwitchService.Runs.Attempts
import SwitchService.Runs.Registry
import SwitchService.Runs.WritesVisible
import SwitchService.Db.Migrate
import SwitchService.Db.MigrationRun
import SwitchService.Db.MigrationStep
import SwitchService.Runs.Migrations
import SwitchService.Wire.JsonText
import SwitchService.Wire.JsonParse
import SwitchService.Wire.SseHub
import SwitchService.Wire.RouteRequest
import SwitchService.Wire.RouteEndpoint
import SwitchService.Wire.RoundTrip
import SwitchService.Server.Order
import SwitchService.Server.Shutdown
import SwitchService.Scripts.CanIDeploy
