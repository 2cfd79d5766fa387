import ProcessEvents.Number.Written
import ProcessEvents.Text

/-
  This file defines the settings of the service and how they
  are read from environment variables.

  Key definitions include:
    * `Environment`
    * `Config`
    * `Config.groupsEnabled`
    * `Config.conditionalEnabled`
    * `ConfigError`
    * `Config.read`
    * `Config.variableNames`
-/

namespace ProcessEvents

------------------------------------------------------------
-- Settings
------------------------------------------------------------

/- Values of the variables that are set. -/
abbrev Environment :=
  String → Option String

/- A text that is not empty. -/
structure NonEmptyText where
  text : String
  nonempty : text ≠ ""
  deriving DecidableEq, Repr

/- A text as one that is not empty. -/
def NonEmptyText.of?
    (text : String) : Option NonEmptyText :=
  if h : text ≠ "" then some ⟨text, h⟩ else none

/- Connection to the message broker. -/
structure BrokerConfig where
  hosts : String
  tls : Bool
  lingerMillis : Nat
  queueMib : Nat
  messageTimeoutMillis : Nat
  compressionCodec : String
  deriving DecidableEq, Repr

/- How commands are consumed. -/
structure ConsumerConfig where
  group : String
  offsetReset : String
  deriving DecidableEq, Repr

/- The settings of the service. Durations are in nanoseconds. -/
structure Config where
  host : String
  port : Nat
  debug : Bool
  marshallerUrl : String
  converterUrl : String
  extendedConverterUrl : String
  flowEngineUrl : String
  flowParserUrl : String
  pipelineRepositoryUrl : String
  importDeployUrl : String
  importRepositoryUrl : String
  deviceRepositoryUrl : String
  permissionSearchUrl : String
  eventTriggerUrl : String
  devicePathPrefix : String
  groupPathPrefix : String
  importPathPrefix : String
  genericSourcePathPrefix : String
  deploymentTopic : NonEmptyText
  deviceGroupTopic : Option NonEmptyText
  deploymentDoneTopic : Option NonEmptyText
  deploymentDoneHandler : String
  conditionalEventDatabaseUrl : String
  maxDatabaseConnections : Nat
  authEndpoint : String
  authClientId : String
  authClientSecret : String
  authExpirationBuffer : Nat
  userTokenCacheLifespan : Nat
  analyticsRequestTimeout : Nat
  httpClientTimeout : Nat
  enableAnalyticsEvents : Bool
  enableMultiplePaths : Bool
  broker : BrokerConfig
  consumer : ConsumerConfig
  deriving DecidableEq, Repr

namespace Config

/- Host and port to listen on. -/
def bind
    (c : Config) : String :=
  c.host ++ ":" ++ Text.decimal c.port

/-
  Group, import and generic source events need credentials
  to look up devices and imports for the owner.
-/
def groupsEnabled
    (c : Config) : Bool :=
  c.authClientId != "" && c.authClientSecret != "" &&
    c.authEndpoint != "" && c.permissionSearchUrl != ""

/- Conditional events need a database; a dash stands for none. -/
def conditionalEnabled
    (c : Config) : Bool :=
  c.conditionalEventDatabaseUrl != "" && c.conditionalEventDatabaseUrl != "-"

end Config

------------------------------------------------------------
-- Reading
------------------------------------------------------------

/- A variable whose value cannot be read. -/
structure ConfigError where
  variableName : String
  deriving DecidableEq, Repr

def ConfigError.message
    (e : ConfigError) : String :=
  "Failed to parse environment variable " ++ e.variableName

namespace Config

/- A setting with a default text. -/
def setting
    {α : Type}
    (env : Environment)
    (name dflt : String)
    (parse : String → Option α) : Except ConfigError α :=
  match parse ((env name).getD dflt) with
  | some x => .ok x
  | none => .error ⟨name⟩

/- A text setting. -/
def text
    (env : Environment)
    (name dflt : String) : Except ConfigError String :=
  setting env name dflt some

/- A switch: one of two words. -/
def switch
    (env : Environment)
    (name dflt : String) : Except ConfigError Bool :=
  setting env name dflt fun
    | "true" => some true
    | "false" => some false
    | _ => none

/- A natural number of 32 bits. -/
def word
    (env : Environment)
    (name dflt : String) : Except ConfigError Nat :=
  setting env name dflt (Written.nat? 0xFFFFFFFF)

/- A duration given in whole milliseconds. -/
def millis
    (env : Environment)
    (name dflt : String) : Except ConfigError Nat :=
  setting env name dflt fun s =>
    (Written.nat? 0xFFFFFFFFFFFFFFFF s).map (· * 1000000)

/- A setting that may be missing, but not empty. -/
def optionalText
    (env : Environment)
    (name : String) : Except ConfigError (Option NonEmptyText) :=
  match env name with
  | none => .ok none
  | some s =>
    match NonEmptyText.of? s with
    | some t => .ok (some t)
    | none => .error ⟨name⟩

def readBroker
    (env : Environment) : Except ConfigError BrokerConfig := do
  let hosts ← text env "KAFKA_HOSTS" "localhost:9092"
  let tls ← switch env "KAFKA_TLS" "false"
  let lingerMillis ← word env "KAFKA_PRODUCER_LINGER_MS" "20"
  let queueMib ← word env "KAFKA_PRODUCER_QUEUE_MIB" "400"
  let messageTimeoutMillis ← word env "KAFKA_MESSAGE_TIMEOUT_MS" "20000"
  let compressionCodec ← text env "KAFKA_COMPRESSION_CODEC" "none"
  return {
    hosts, tls, lingerMillis, queueMib, messageTimeoutMillis, compressionCodec }

def readConsumer
    (env : Environment) : Except ConfigError ConsumerConfig := do
  let group ← text env "KAFKA_CONSUMER_GROUP" "event-deployment"
  let offsetReset ← text env "KAFKA_CONSUMER_OFFSET_RESET" "earliest"
  return { group, offsetReset }

/-
  The settings of an environment. Of several variables that
  cannot be read the first one in this order is reported.
-/
def read
    (env : Environment) : Except ConfigError Config := do
  let host ← text env "BIND_HOST" "0.0.0.0"
  let port ← setting env "BIND_PORT" "8080" (Written.nat? 0xFFFF)
  let debug ← switch env "DEBUG" "false"
  let marshallerUrl ← text env "MARSHALLER_URL" "http://marshaller:8080"
  let converterUrl ← text env "CONVERTER_URL" "http://converter:8080"
  let extendedConverterUrl ←
    text env "EXTENDED_CONVERTER_URL"
      "http://converter:8080/extended-conversions"
  let flowEngineUrl ← text env "FLOW_ENGINE_URL" "http://flow-engine:8000"
  let flowParserUrl ← text env "FLOW_PARSER_URL" "http://flow-parser:5000"
  let pipelineRepositoryUrl ←
    text env "PIPELINE_REPO_URL" "http://pipeline-registry:8000"
  let importDeployUrl ← text env "IMPORT_DEPLOY_URL" "http://import-deploy:8080"
  let importRepositoryUrl ←
    text env "IMPORT_REPOSITORY_URL" "http://import-repository:8080"
  let deviceRepositoryUrl ←
    text env "DEVICE_REPOSITORY_URL" "http://device-repository:8080"
  let permissionSearchUrl ← text env "PERM_SEARCH_URL" ""
  let eventTriggerUrl ←
    text env "EVENT_TRIGGER_URL" "http://engine-wrapper:8080/v2/event-trigger"
  let devicePathPrefix ← text env "DEVICE_PATH_PREFIX" "value."
  let groupPathPrefix ← text env "GROUP_PATH_PREFIX" "value."
  let importPathPrefix ← text env "IMPORT_PATH_PREFIX" ""
  let genericSourcePathPrefix ← text env "GENERIC_SOURCE_PATH_PREFIX" ""
  let deploymentTopic ← setting env "DEPLOYMENT_TOPIC"
    "deployment" NonEmptyText.of?
  let deviceGroupTopic ← optionalText env "DEVICE_GROUP_TOPIC"
  let deploymentDoneTopic ← optionalText env "DEPLOYMENT_DONE_TOPIC"
  let deploymentDoneHandler ←
    text env "DEPLOYMENT_DONE_HANDLER"
      "github.com/SENERGY-Platform/event-deployment"
  let conditionalEventDatabaseUrl ← text env "CONDITIONAL_EVENT_DATABASE_URL" ""
  let maxDatabaseConnections ← word env "MAX_PG_CONNECTIONS" "10"
  let authEndpoint ← text env "AUTH_ENDPOINT" ""
  let authClientId ← text env "AUTH_CLIENT_ID" ""
  let authClientSecret ← text env "AUTH_CLIENT_SECRET" ""
  let authExpirationBuffer ←
    setting env "AUTH_EXPIRATION_TIME_BUFFER_SECS" "1" Written.seconds?
  let userTokenCacheLifespan ← millis env "USER_TOKEN_CACHE_LIFESPAN" "600000"
  let analyticsRequestTimeout ← millis env "ANALYTICS_REQUEST_TIMEOUT" "30000"
  let httpClientTimeout ← millis env "HTTP_CLIENT_TIMEOUT" "10000"
  let enableAnalyticsEvents ← switch env "ENABLE_ANALYTICS_EVENTS" "true"
  let enableMultiplePaths ← switch env "ENABLE_MULTIPLE_PATHS" "false"
  let broker ← readBroker env
  let consumer ← readConsumer env
  return {
    host, port, debug, marshallerUrl, converterUrl, extendedConverterUrl,
    flowEngineUrl, flowParserUrl, pipelineRepositoryUrl, importDeployUrl,
    importRepositoryUrl, deviceRepositoryUrl, permissionSearchUrl,
    eventTriggerUrl, devicePathPrefix, groupPathPrefix, importPathPrefix,
    genericSourcePathPrefix, deploymentTopic, deviceGroupTopic,
    deploymentDoneTopic, deploymentDoneHandler, conditionalEventDatabaseUrl,
    maxDatabaseConnections, authEndpoint, authClientId, authClientSecret,
    authExpirationBuffer, userTokenCacheLifespan, analyticsRequestTimeout,
    httpClientTimeout, enableAnalyticsEvents, enableMultiplePaths, broker,
    consumer }

/- The names of the variables that are read, in this order. -/
def variableNames : List String :=
  ["BIND_HOST", "BIND_PORT", "DEBUG", "MARSHALLER_URL", "CONVERTER_URL",
    "EXTENDED_CONVERTER_URL", "FLOW_ENGINE_URL", "FLOW_PARSER_URL",
    "PIPELINE_REPO_URL", "IMPORT_DEPLOY_URL", "IMPORT_REPOSITORY_URL",
    "DEVICE_REPOSITORY_URL", "PERM_SEARCH_URL", "EVENT_TRIGGER_URL",
    "DEVICE_PATH_PREFIX", "GROUP_PATH_PREFIX", "IMPORT_PATH_PREFIX",
    "GENERIC_SOURCE_PATH_PREFIX", "DEPLOYMENT_TOPIC", "DEVICE_GROUP_TOPIC",
    "DEPLOYMENT_DONE_TOPIC", "DEPLOYMENT_DONE_HANDLER",
    "CONDITIONAL_EVENT_DATABASE_URL", "MAX_PG_CONNECTIONS", "AUTH_ENDPOINT",
    "AUTH_CLIENT_ID", "AUTH_CLIENT_SECRET",
    "AUTH_EXPIRATION_TIME_BUFFER_SECS", "USER_TOKEN_CACHE_LIFESPAN",
    "ANALYTICS_REQUEST_TIMEOUT", "HTTP_CLIENT_TIMEOUT",
    "ENABLE_ANALYTICS_EVENTS", "ENABLE_MULTIPLE_PATHS", "KAFKA_HOSTS",
    "KAFKA_TLS", "KAFKA_PRODUCER_LINGER_MS", "KAFKA_PRODUCER_QUEUE_MIB",
    "KAFKA_MESSAGE_TIMEOUT_MS", "KAFKA_COMPRESSION_CODEC",
    "KAFKA_CONSUMER_GROUP", "KAFKA_CONSUMER_OFFSET_RESET"]

/- Other variables do not matter. -/
theorem read_congr
    {env env' : Environment}
    (h : ∀ name ∈ variableNames, env name = env' name) :
    read env = read env' := by
  simp only [variableNames, List.forall_mem_cons] at h
  simp only [read, readBroker, readConsumer, text, switch, word, millis,
    setting, optionalText, h]

end Config

end ProcessEvents
