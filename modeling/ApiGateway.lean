import ApiGateway.Go.Runtime
import ApiGateway.Go.Map
import ApiGateway.Go.Strings
import ApiGateway.Go.Http
import ApiGateway.Go.Time
import ApiGateway.Slice
import ApiGateway.Domain
import ApiGateway.RateLimit
import ApiGateway.M2m
import ApiGateway.Processor.Process
import ApiGateway.Processor.Dispatch
import ApiGateway.Processor.Audit
import ApiGateway.Auth
import ApiGateway.Config
import ApiGateway.Provider.Proto
import ApiGateway.Provider.Adapter
import ApiGateway.Sdk.Sdk
import ApiGateway.Sdk.Server
import ApiGateway.Sdk.Concurrent
import ApiGateway.Wire
import ApiGateway.Gateway.Handler
import ApiGateway.Sync
