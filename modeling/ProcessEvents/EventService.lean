import ProcessEvents.AnalyticsHandler
import ProcessEvents.Api
import ProcessEvents.Broker
import ProcessEvents.Client.Analytics
import ProcessEvents.Client.Devices
import ProcessEvents.Client.Imports
import ProcessEvents.Client.Tokens
import ProcessEvents.ConditionalHandler

/-
  This file defines the service as its settings wire it: the
  clients of the other services, the handlers that are
  enabled, and the topics that commands are read from.

  Key definitions include:
    * `Platform`
    * `Clients`
    * `EventService.handlers`
    * `CommandConsumer`
    * `EventService`
    * `StartupError`
    * `EventService.start`
-/

namespace ProcessEvents

variable {σ : Type}

------------------------------------------------------------
-- Surroundings
------------------------------------------------------------

/- What the service stands on. -/
structure Platform (σ : Type) where
  /- The network, where a request may take so many nanoseconds. -/
  network : Nat → Client.Network σ
  tokenCache : Slot σ TokenCache
  counters : Counters σ
  /- The stores at an address, over so many connections at most. -/
  openStores : String → Nat → Action σ StoreError (EventStore σ × IndexStore σ)
  /- A topic of the broker that deployments are announced on. -/
  openDone : BrokerConfig → NonEmptyText → Action σ BrokerFault (DoneChannel σ)

/- Why the service cannot be started. -/
inductive StartupError where
  | broker (fault : BrokerFault)
  | store (error : StoreError)
  deriving DecidableEq, Repr

/- The other services, as the handlers see them. -/
structure Clients (σ : Type) where
  tokens : TokenIssuer σ
  devices : DeviceDirectory σ
  imports : ImportDirectory σ
  engine : FlowEngine σ

/- The clients with the addresses in the settings. -/
def Clients.ofConfig
    (p : Platform σ)
    (c : Config) : Clients σ :=
  let network := p.network c.httpClientTimeout
  let provider : IdentityProvider σ :=
    { network
      baseUrl := c.authEndpoint
      clientId := c.authClientId
      clientSecret := c.authClientSecret
      expirationBuffer := c.authExpirationBuffer
      userLifespan := c.userTokenCacheLifespan
      cache := p.tokenCache }
  let repository : DeviceRepository σ :=
    { network, baseUrl := c.deviceRepositoryUrl, tokens := provider.issuer }
  let imports : ImportServices σ :=
    { network
      deployUrl := c.importDeployUrl
      repositoryUrl := c.importRepositoryUrl }
  let platform : AnalyticsPlatform σ :=
    { network := p.network c.analyticsRequestTimeout
      engineUrl := c.flowEngineUrl
      parserUrl := c.flowParserUrl
      repositoryUrl := c.pipelineRepositoryUrl }
  { tokens := provider.issuer
    devices := repository.directory
    imports := imports.directory
    engine := platform.engine }

------------------------------------------------------------
-- The service
------------------------------------------------------------

/- A topic of commands, and who answers for its being read. -/
structure CommandConsumer where
  subscription : Subscription
  commands : CommandTopic
  liveness : HealthHandle
  deriving DecidableEq, Repr

/- The service, ready to answer and to read commands. -/
structure EventService (σ : Type) where
  dispatcher : Dispatcher σ
  consumers : List CommandConsumer
  health : HealthRegistry

namespace EventService

/- The handler of message events, unless they are disabled. -/
def analytics?
    (p : Platform σ)
    (c : Config) : Option (EventHandler σ) :=
  if c.enableAnalyticsEvents then
    let clients := Clients.ofConfig p c
    some (AnalyticsHandler.ofConfig c clients.engine
      clients.devices clients.imports
      clients.tokens p.counters).handler
  else none

/- The handler of conditional events over given stores. -/
def conditional
    (p : Platform σ)
    (c : Config)
    (events : EventStore σ)
    (index : IndexStore σ) : EventHandler σ :=
  let clients := Clients.ofConfig p c
  ConditionalHandler.handler
    { events, index
      describer := { devices := clients.devices, imports := clients.imports }
      tokens := clients.tokens
      counters := p.counters }

/- The handlers that are enabled, that of message events first. -/
def handlers
    (p : Platform σ)
    (c : Config) : Action σ StoreError (List (EventHandler σ)) :=
  if c.conditionalEnabled then do
    let (events, index) ←
      p.openStores c.conditionalEventDatabaseUrl c.maxDatabaseConnections
    return (analytics? p c).toList ++ [conditional p c events index]
  else return (analytics? p c).toList

/- The dispatcher of the enabled handlers. -/
def dispatcherOf
    (p : Platform σ)
    (c : Config) : Action σ StartupError (Dispatcher σ) := do
  let handlers ← (handlers p c).mapError .store
  let done ←
    match c.deploymentDoneTopic with
    | none => pure none
    | some topic => some <$> (p.openDone c.broker topic).mapError .broker
  return {
    handlers, done
    doneHandler := c.deploymentDoneHandler
    counters := p.counters }

------------------------------------------------------------
-- Topics of commands
------------------------------------------------------------

/- A number of seconds in nanoseconds. -/
def seconds
    (n : Int) : Int :=
  n * 1000000000

/- The component that answers for a topic of commands. -/
def consumerLiveness : CommandTopic → HealthHandle
  | .deployment =>
      { component := "deployment_consumer", deadline := seconds 60 }
  | .deviceGroup =>
      { component := "device_group_consumer", deadline := seconds 60 }

/- The component that answers for the announcements. -/
def producerLiveness : HealthHandle :=
  { component := "rdkafka", deadline := seconds 30 }

/- The topics that commands are read from. -/
def commandTopics
    (c : Config) : List (CommandTopic × NonEmptyText) :=
  (.deployment, c.deploymentTopic) ::
    (c.deviceGroupTopic.map fun topic => (.deviceGroup, topic)).toList

/- The consumer of a topic. -/
def consumer
    (c : Config)
    (commands : CommandTopic)
    (topic : NonEmptyText) : Except BrokerFault CommandConsumer := do
  let subscription ← Subscription.ofConfig c.broker c.consumer topic
  return { subscription, commands, liveness := consumerLiveness commands }

/- The components of the service, which are all starting. -/
def components
    (c : Config)
    (consumers : List CommandConsumer) : HealthRegistry :=
  .ofHandles
    ((c.deploymentDoneTopic.map fun _ => producerLiveness).toList ++
      consumers.map (·.liveness))

/- Start the service. -/
def start
    (p : Platform σ)
    (c : Config) : Action σ StartupError (EventService σ) := do
  let dispatcher ← dispatcherOf p c
  let consumers ← .ofExcept
    (((commandTopics c).mapM fun t => consumer c t.1 t.2).mapError .broker)
  return { dispatcher, consumers, health := components c consumers }

/- The service as it answers over HTTP. -/
def api
    (s : EventService σ) : Api σ :=
  { dispatcher := s.dispatcher, health := s.health }

end EventService

end ProcessEvents
