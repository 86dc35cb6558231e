import Praeco.Bits.Prefix
import Praeco.Breaker.Atomics
import Praeco.Breaker.Guards
import Praeco.Breaker.Node
import Praeco.Breaker.Threshold
import Praeco.Collections.Access
import Praeco.Collections.Descending
import Praeco.Collections.Edits
import Praeco.Collections.Fallible
import Praeco.Collections.Map
import Praeco.Collections.Patterns
import Praeco.Collections.Positions
import Praeco.Compression.Decompression
import Praeco.Compression.Negotiation
import Praeco.Connections.Accounting
import Praeco.Connections.Identity
import Praeco.Connections.Relay
import Praeco.Connections.Tracker
import Praeco.Http.Message
import Praeco.Http.Target
import Praeco.Idp.Audience
import Praeco.Idp.Revoke
import Praeco.Idp.Service
import Praeco.Idp.Session
import Praeco.Idp.SessionLimits
import Praeco.Idp.SessionLockout
import Praeco.Idp.SessionSafety
import Praeco.Inspection.Rules
import Praeco.Jwt.Auth
import Praeco.Jwt.Expiry
import Praeco.Jwt.Logout
import Praeco.Jwt.Races
import Praeco.Limits.BucketRaces
import Praeco.Limits.CidrRules
import Praeco.Limits.Concurrency
import Praeco.Limits.Framing
import Praeco.Limits.IpFilter
import Praeco.Limits.Payload
import Praeco.Limits.RateBound
import Praeco.Limits.RelayRate
import Praeco.Limits.RetryAfter
import Praeco.Limits.SimpleLimiter
import Praeco.Limits.TokenBucket
import Praeco.Net.Display
import Praeco.Net.Parse
import Praeco.Numbers.Rounding
import Praeco.Path.Idempotence
import Praeco.Path.Meaning
import Praeco.Path.Respelling
import Praeco.Path.Rounds
import Praeco.Path.Segments
import Praeco.Rates.Tokens
import Praeco.Rates.Windows
import Praeco.Router.Attempts
import Praeco.Router.Attribution
import Praeco.Router.Balancing
import Praeco.Router.Buffering
import Praeco.Router.ClientFaults
import Praeco.Router.Failover
import Praeco.Router.GrpcWeb
import Praeco.Router.Headers
import Praeco.Router.Herd
import Praeco.Router.HopByHop
import Praeco.Router.Loops
import Praeco.Router.Outliers
import Praeco.Router.Reflection
import Praeco.Router.Selection
import Praeco.Router.Spoofing
import Praeco.Router.Transcoding
import Praeco.Schedule.Exclusive
import Praeco.Schedule.Interleaving
import Praeco.Schedule.Permits
import Praeco.Schedule.Processes
import Praeco.Schedule.Runs
import Praeco.Schedule.Sequential
import Praeco.Schedule.Turns
import Praeco.Server.AdminQuery
import Praeco.Server.Finalize
import Praeco.Server.Handover
import Praeco.Server.HealthChecks
import Praeco.Server.HealthScore
import Praeco.Server.Launches
import Praeco.Server.Listeners
import Praeco.Server.Middleware
import Praeco.Server.Oids
import Praeco.Server.Ports
import Praeco.Server.Proxying
import Praeco.Server.Reload
import Praeco.Server.Stack
import Praeco.Server.Tls
import Praeco.Server.TraceId
import Praeco.Streams.BigEndian
import Praeco.Streams.Polling
import Praeco.Streams.Reading
import Praeco.Streams.Varint
import Praeco.Strings.Lossy
import Praeco.Strings.Percent
import Praeco.Strings.Split
import Praeco.Strings.Tokens
import Praeco.Tunnel.Consumption
import Praeco.Tunnel.HostNames
import Praeco.Tunnel.Overwrite
import Praeco.Tunnel.ProxyProtocol
import Praeco.Tunnel.Register
import Praeco.Tunnel.Registry
import Praeco.Tunnel.Transparency
import Praeco.Tunnel.Watchdog
