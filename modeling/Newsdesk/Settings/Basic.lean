import Newsdesk.Duration

/-!
# Settings

The settings of the operator: where the aggregator is, which config map lists the feed groups,
which namespaces count, where the webhooks listen and how long things take.
-/

namespace Newsdesk

/-- The settings of the operator. -/
structure Settings where
  aggregatorUrl : String := "https://news-aggregator.news-system.svc.cluster.local:8443"
  aggregatorTimeoutSecs : Nat := 10
  configMapName : String := "feed-group-source"
  configMapNamespace : Option String := none
  watchNamespace : Option String := none
  webhookPort : Nat := 9443
  tlsCertPath : String := "/tmp/k8s-webhook-server/serving-certs/tls.crt"
  tlsKeyPath : String := "/tmp/k8s-webhook-server/serving-certs/tls.key"
  disableWebhooks : Bool := false
  hotNewsRefreshSecs : Nat := 300
  errorBackoffInitialMillis : Nat := 500
  errorBackoffMaxSecs : Nat := 300
deriving DecidableEq, Repr

namespace Settings

/-- How long a request to the aggregator may take. -/
def aggregatorTimeout (s : Settings) : Duration := .ofSeconds s.aggregatorTimeoutSecs

/-- How long a query waits for its next refresh. -/
def hotNewsRefresh (s : Settings) : Duration := .ofSeconds s.hotNewsRefreshSecs

/-- The first delay after a failure. -/
def errorBackoffInitial (s : Settings) : Duration := .ofMillis s.errorBackoffInitialMillis

/-- The longest delay after failures in a row. -/
def errorBackoffMax (s : Settings) : Duration := .ofSeconds s.errorBackoffMaxSecs

/-- Whether feed groups count in a namespace. -/
def feedGroupsEnabledIn (s : Settings) (ns : String) : Bool :=
  match s.configMapNamespace with
  | some allowed => allowed = ns
  | none => true

/-- Whether a config map is the one that lists the feed groups. One without a namespace is
not. -/
def isFeedGroupsMap (s : Settings) (ns : Option String) (name : String) : Bool :=
  match ns with
  | some ns => name = s.configMapName && s.feedGroupsEnabledIn ns
  | none => false

/-- The namespace in which config maps are watched; `none` means all. -/
def configMapScope (s : Settings) : Option String :=
  s.configMapNamespace.orElse fun _ => s.watchNamespace

end Settings

end Newsdesk
