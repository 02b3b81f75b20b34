import MarketSystem.Models
import MarketSystem.Encoding
import MarketSystem.Websocket.Subscription
import MarketSystem.Websocket.Hub
import MarketSystem.Processor.Storage
import MarketSystem.Websocket.Bridge
import MarketSystem.Collector.Session
import MarketSystem.Processor.Decode
import MarketSystem.Common.Time
import MarketSystem.Processor.Kline
import MarketSystem.Common.Fmt
import MarketSystem.Collector.Adapters
import MarketSystem.Collector.Merger
import MarketSystem.Collector.Routing
import MarketSystem.Processor.Bus
import MarketSystem.Processor.Kafka
import MarketSystem.Collector.Subscriptions
import MarketSystem.Processor.Candles
import MarketSystem.Processor.Depth
import MarketSystem.Processor.Consumers
import MarketSystem.Processor.Stored
import MarketSystem.Processor.Timed
import MarketSystem.Api.Market
import MarketSystem.Api.Reads
import MarketSystem.Websocket.WritePump
