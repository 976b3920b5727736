import TokenBridge.Chain
import TokenBridge.Tracking.Axelar
import TokenBridge.Tracking.Executor

/-!
# Providers

A provider asks one relay network. It knows the web addresses of the relay by network, or takes them
from the settings in use, and how long an answer may take. A query is refused before anything is
sent if there is no web address for its network, and then if the relay does not know its chain. All
else is up to the client.
-/

namespace TokenBridge.Tracking

/-- A source of statuses of one relay network; what is missing is taken from the settings. -/
structure Provider where
  relay : Relay
  baseUrls : Option Value.Entries
  timeout : Option Value

/-- The provider of a relay network that takes everything from the settings. -/
def Provider.standard (relay : Relay) : Provider := ⟨relay, none, none⟩

namespace Relay

/-- The web addresses of a relay network in the settings. -/
def endpoints (settings : Config.RelaySettings) : Relay → Config.Table
  | .executor => settings.executorApi
  | .axelar => settings.axelarApi

/-- The path that queries are posted to. -/
def path : Relay → String
  | .executor => "/v0/status/tx"
  | .axelar => "/gmp/searchGMP"

/-- What is posted for a query. -/
def body (query : Query) : Relay → Except Fault Value
  | .executor =>
    match Chain.idOf query.chain with
    | .ok id => .ok (.map [("txHash", query.tx), ("chainId", .int id)])
    | .error .notAKey => .error .notAKey
    | .error _ => .error (.unknownChain query.chain)
  | .axelar => do
    let chain ← Axelar.chainNameOf query.chain
    .ok (.map [("sourceChain", .text chain), ("txHash", query.tx)])

/-- The records in an answer of a relay network. -/
def recordsOf (settings : Config.RelaySettings) (query : Query) :
    Relay → Value → Report (List StatusRecord)
  | .executor => Executor.recordsOf query.tx
  | .axelar => Axelar.recordsOf settings.axelarExplorer query

end Relay

/-- What a query came to: the result, the requests that were sent, and what was reported. -/
structure Outcome (α : Type) where
  result : Except Fault α
  requests : List Request
  log : List LogRecord

/-- Anything that answers queries. -/
abbrev Source := Query → Outcome (List StatusRecord)

namespace Source

/-- The source that answers every query with the records among some values. The first value must be
a record, since it is the one that is looked at. -/
def ofValues (values : List Value) : Source := fun _ =>
  match values with
  | [] => ⟨.ok [], [], []⟩
  | first :: rest =>
    match StatusRecord.ofValue? first with
    | some record => ⟨.ok (record :: rest.filterMap StatusRecord.ofValue?), [], []⟩
    | none => ⟨.error .notARecord, [], []⟩

/-- What answers where there is no source. -/
def missing : Source := fun _ => ⟨.error .noSource, [], []⟩

end Source

namespace Provider

/-- What a provider knows as the web address of the relay for a network. -/
def endpoint? (provider : Provider) (settings : Config.RelaySettings) :
    Value → Option Value
  | .text network =>
    match provider.baseUrls with
    | some urls => urls.lookup network
    | none => ((provider.relay.endpoints settings).lookup network).map .text
  | _ => none

/-- The web address of the relay for a network, without the slashes at its end. -/
def baseUrl (provider : Provider) (settings : Config.RelaySettings) (network : Value) :
    Except Fault String :=
  if !network.isKey then .error .notAKey
  else
    match (provider.endpoint? settings network).filter Value.truthy with
    | none => .error (.noEndpoint provider.relay network)
    | some (.text url) => .ok (trimSlashes url)
    | some _ => .error .notAnAddress

/-- The request for a query. -/
def request (provider : Provider) (settings : Config.RelaySettings) (query : Query) :
    Except Fault Request := do
  let base ← provider.baseUrl settings query.network
  let body ← provider.relay.body query
  .ok ⟨base ++ provider.relay.path, body, provider.timeout.getD settings.requestTimeout⟩

/-- What a query comes to over a client. -/
def ask (provider : Provider) (settings : Config.RelaySettings) (client : Client) : Source :=
  fun query =>
    match provider.request settings query with
    | .error fault => ⟨.error fault, [], []⟩
    | .ok request =>
      let delivery := client.post request
      let report := (delivery.reply.read client.depth request.url query.tx).andThen
        (provider.relay.recordsOf settings query)
      ⟨report.result, delivery.sent, report.log⟩

end Provider

end TokenBridge.Tracking
