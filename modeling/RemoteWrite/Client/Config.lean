import RemoteWrite.Config.Names
import RemoteWrite.Time.Duration

/-!
Contract: the configuration of clients.

Owns: the retry policy and the client configuration, their defaults, and their
documents.

Does not own: what a client does with them.
-/

namespace RemoteWrite

open Config

/-- When and how often a request is repeated. A hint of the server is added on
top of the delay. -/
structure BackoffConfig where
  minDelayMs : UInt64 := 1000
  maxDelayMs : UInt64 := 10000
  maxRetries : UInt32 := 10
deriving DecidableEq, Repr

namespace BackoffConfig

def minDelay (config : BackoffConfig) : Time.Duration := .ofMillis config.minDelayMs

def maxDelay (config : BackoffConfig) : Time.Duration := .ofMillis config.maxDelayMs

def settings : List (Setting BackoffConfig) := [
  .ofReader "min_delay_ms" Reader.uint64 fun minDelayMs config => { config with minDelayMs },
  .ofReader "max_delay_ms" Reader.uint64 fun maxDelayMs config => { config with maxDelayMs },
  .ofReader "max_retries" Reader.uint32 fun maxRetries config => { config with maxRetries }]

def reader : Reader BackoffConfig := .record "BackoffConfig" settings {}

def toDocument (config : BackoffConfig) : Document :=
  .ofEntries [
    ("min_delay_ms", .ofUInt64 config.minDelayMs),
    ("max_delay_ms", .ofUInt64 config.maxDelayMs),
    ("max_retries", .ofUInt64 config.maxRetries.toUInt64)]

end BackoffConfig

structure ClientConfig where
  /-- The path of the endpoint, resolved against the base URL. -/
  path : String := "api/v1/write"
  compression : Compression := .snappy
  retryOnRateLimit : Bool := true
  userAgent : String := "prw-client/0.1.0"
  timeoutSecs : UInt64 := 60
  connectionTimeoutSecs : UInt64 := 3
  backoff : BackoffConfig := {}
deriving DecidableEq, Repr

namespace ClientConfig

def timeout (config : ClientConfig) : Time.Duration := .ofSeconds config.timeoutSecs

def connectionTimeout (config : ClientConfig) : Time.Duration :=
  .ofSeconds config.connectionTimeoutSecs

def settings : List (Setting ClientConfig) := [
  .ofReader "path" Reader.text fun path config => { config with path },
  .ofReader "compression" Compression.reader fun compression config =>
    { config with compression },
  .ofReader "retry_on_rate_limit" Reader.boolean fun retryOnRateLimit config =>
    { config with retryOnRateLimit },
  .ofReader "user_agent" Reader.text fun userAgent config => { config with userAgent },
  .ofReader "timeout_secs" Reader.uint64 fun timeoutSecs config => { config with timeoutSecs },
  .ofReader "connection_timeout_secs" Reader.uint64 fun connectionTimeoutSecs config =>
    { config with connectionTimeoutSecs },
  .ofReader "backoff" BackoffConfig.reader fun backoff config => { config with backoff }]

def reader : Reader ClientConfig := .record "ClientConfig" settings {}

def toDocument (config : ClientConfig) : Document :=
  .ofEntries [
    ("path", .text config.path),
    ("compression", config.compression.toDocument),
    ("retry_on_rate_limit", .boolean config.retryOnRateLimit),
    ("user_agent", .text config.userAgent),
    ("timeout_secs", .ofUInt64 config.timeoutSecs),
    ("connection_timeout_secs", .ofUInt64 config.connectionTimeoutSecs),
    ("backoff", config.backoff.toDocument)]

end ClientConfig
end RemoteWrite
