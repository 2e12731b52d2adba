import CachingLayer.Basis.Sha256
import CachingLayer.Basis.Framing
import CachingLayer.Basis.Fold
import CachingLayer.Basis.Text
import CachingLayer.Basis.Keyed
import CachingLayer.Basis.Run
import CachingLayer.Basis.TokenBucket
import CachingLayer.Basis.Redis
import CachingLayer.Basis.Escaping
import CachingLayer.Basis.Rounding
import CachingLayer.Basis.Deque
import CachingLayer.Basis.Sorted
import CachingLayer.Models.Json
import CachingLayer.Models.Chat
import CachingLayer.Models.Cache
import CachingLayer.Cache.Namespace
import CachingLayer.Cache.Similarity
import CachingLayer.Cache.MemoryStore
import CachingLayer.Cache.SemanticCache
import CachingLayer.Models.Codec
import CachingLayer.Cache.RedisStore
import CachingLayer.Cache.TagQuery
import CachingLayer.Cache.RedisCalls
import CachingLayer.Cache.Flush
import CachingLayer.Cache.TagIndex
import CachingLayer.Cache.MemoryCalls
import CachingLayer.Cache.Expiry
import CachingLayer.Cache.NearestNeighbour
import CachingLayer.Cache.TopK
import CachingLayer.Cache.Deadlines
import CachingLayer.Cache.HitCount
import CachingLayer.Policies.Patterns
import CachingLayer.Policies.TtlClassifier
import CachingLayer.Policies.ThresholdEngine
import CachingLayer.Core.Middleware
import CachingLayer.Proxy.Streaming
import CachingLayer.Proxy.Wire
import CachingLayer.Proxy.Reassembly
import CachingLayer.Proxy.Service
import CachingLayer.Proxy.StreamedMiss
import CachingLayer.Proxy.LineEndings
import CachingLayer.Proxy.Choices
import CachingLayer.Proxy.Parameters
import CachingLayer.Proxy.Machine
import CachingLayer.Proxy.Sequential
import CachingLayer.Proxy.Soundness
import CachingLayer.Proxy.Invalidation
import CachingLayer.Proxy.Freshness
import CachingLayer.Proxy.Adaptation
import CachingLayer.Proxy.NearMisses
import CachingLayer.Proxy.Retention
import CachingLayer.Proxy.Isolation
import CachingLayer.Proxy.Delivery
import CachingLayer.Providers.PassThrough
import CachingLayer.Providers.Anthropic
import CachingLayer.Proxy.Accounting
import CachingLayer.Analytics.Threshold
import CachingLayer.Analytics.NearMiss
import CachingLayer.Analytics.Validation
import CachingLayer.Analytics.Agreement
import CachingLayer.Proxy.Convergence
import CachingLayer.Basis.Retry
import CachingLayer.Core.Config
import CachingLayer.Providers.Base
import CachingLayer.Providers.Answers
import CachingLayer.Proxy.Translated
import CachingLayer.Providers.Router
import CachingLayer.Proxy.Replays
import CachingLayer.Proxy.Routed
import CachingLayer.Basis.Ledger
import CachingLayer.Monitoring.Metrics
import CachingLayer.Proxy.Metered
import CachingLayer.Basis.Leases
import CachingLayer.Cache.Backends
import CachingLayer.Proxy.Popularity
import CachingLayer.Providers.Streams
import CachingLayer.Proxy.RoutedStreams
import CachingLayer.Embeddings.Base
import CachingLayer.Embeddings.OpenAI
import CachingLayer.Proxy.FreshnessTags
import CachingLayer.Proxy.Representation
import CachingLayer.Proxy.Stock
import CachingLayer.Api.Application
import CachingLayer.Basis.Clamped
import CachingLayer.Api.Thresholds
