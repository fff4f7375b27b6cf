import Newsdesk.Proofs.Feed.Failed
import Newsdesk.Proofs.HotNews.Failed

/-!
# Reconciling again

Nothing that a reconcile writes makes the next one write again, as long as nobody else writes and
the aggregator answers in one way (`Settles`). So the changes that the operator sees after its own
writes come to rest.
-/

namespace Newsdesk

open Json Text

/-- What the second of two reconciles does that follow each other in a cluster. -/
structure Settles (env : Environment Cluster) (op : Operator) (c : Cluster) : Prop where
  /-- After a query in use with an identifier was brought up to date, the next reconcile patches
  nothing and ends well, unless a name that its groups resolve to is no longer that of a feed. This
  can only be if there was a feed that went with the first write to it. -/
  query : ∀ {ns name uid : String} {x : Json} {h : HotNews} {action : Action} {c' : Cluster},
    c.store.find? ⟨.hotNews, ns, name⟩ = some x → decodeHotNews x = some h →
    h.metadata.isDeleting = false → h.metadata.uid = some uid →
    (reconcileHotNews op ns name).run env c = (.ok action, c') →
    let known := ∀ n ∈ resolvedIn op h.spec.feedGroups ns (feedNames (storedFeeds ns c.store))
      c.store, n ∈ feedNames (storedFeeds ns c'.store)
    ∃ outcome c'', (reconcileHotNews op ns name).run env c' = (outcome, c'') ∧
      (known → outcome = .ok action ∧ c'.Reads c'') ∧
      (¬ known → ∃ failure, outcome = .error failure) ∧
      ((∀ own x, c.store.find? ⟨.feeds, ns, own⟩ = some x → Store.isReleased x = false) → known)
  /-- After a feed in use was brought up to date, the next reconcile looks it up, registers its
  source and ends well. -/
  feed : ∀ {ns name : String} {x : Json} {f : Feed} {action : Action} {c' : Cluster},
    c.store.find? ⟨.feeds, ns, name⟩ = some x → decodeFeed x = some f →
    f.metadata.isDeleting = false →
    (reconcileFeed op ns name).run env c = (.ok action, c') →
    ∃ endpoint c'' read answered, op.aggregator.sourcesEndpoint = .ok endpoint ∧
      (reconcileFeed op ns name).run env c' = (.ok action, c'') ∧ c''.store = c'.store ∧
      c''.log = c'.log ++ [⟨.api (.get .feeds ns name), read⟩,
        ⟨.aggregator (Aggregator.registration endpoint (trim f.spec.url)), answered⟩]
  /-- When a reconcile of a query with its finalizer fails twice in the same way, the second leaves
  the status alone. -/
  failingQuery : ∀ {ns name : String} {x : Json} {h : HotNews} {failure failure' : Failure}
    {c' c'' : Cluster}, c.store.find? ⟨.hotNews, ns, name⟩ = some x → decodeHotNews x = some h →
    h.metadata.hasFinalizer hotNewsFinalizer = true →
    (reconcileHotNews op ns name).run env c = (.error failure, c') →
    (reconcileHotNews op ns name).run env c' = (.error failure', c'') →
    failure.Alike failure' → c'.Adds (·.patchesStatus = false) c''
  /-- When a reconcile of a feed with its finalizer fails twice in the same way, the second leaves
  the status alone. -/
  failingFeed : ∀ {ns name : String} {x : Json} {f : Feed} {failure failure' : Failure}
    {c' c'' : Cluster}, c.store.find? ⟨.feeds, ns, name⟩ = some x → decodeFeed x = some f →
    f.metadata.hasFinalizer feedFinalizer = true →
    (reconcileFeed op ns name).run env c = (.error failure, c') →
    (reconcileFeed op ns name).run env c' = (.error failure', c'') →
    failure.Alike failure' → c'.Adds (·.patchesStatus = false) c''

/-- The operator comes to rest in a cluster without faults where nobody else writes. -/
theorem reconciles_settle {answer : AggregatorRequest → Reply} {timeText : Nat → String}
    {op : Operator} {c : Cluster} (hw : c.store.WellFormed) (hf : c.faults = []) :
    Settles (Cluster.environmentWith (Cluster.answering answer) timeText) op c where
  query hx hd hactive huid hrun :=
    run_reconcileHotNews_again hw hf (hw.stored hx hd hactive) huid hrun
  feed hx hd hactive hrun := run_reconcileFeed_again hf (hw.stored hx hd hactive) hrun
  failingQuery hx hd hhas hrun hagain halike := run_reconcileHotNews_failed_again hf hw
    (Cluster.isOutside_answering answer) hx hd hhas hrun hagain halike
  failingFeed hx hd hhas hrun hagain halike := run_reconcileFeed_failed_again hf hw
    (Cluster.isOutside_answering answer) hx hd hhas hrun hagain halike

namespace SteadyNews

open GroupedQuery

/-- A query of a group in which a feed is listed that does not exist. -/
def failing : HotNews :=
  ⟨{ Metadata.empty with
      name := some "low", ns := some "news", uid := some "w", resourceVersion := some "1"
      finalizers := some [hotNewsFinalizer] },
    ⟨["election"], none, none, [], ["weekly"], ⟨1⟩⟩, none⟩

/-- A feed of which the aggregator does not take the source. -/
def refused : Feed :=
  ⟨{ Metadata.empty with
      name := some "cnn", ns := some "news", resourceVersion := some "1"
      finalizers := some [feedFinalizer] }, ⟨"cnn", "http://cnn"⟩, none⟩

def groups : Json := ofFields [
  ("metadata", ofFields [("name", .str "groups"), ("namespace", .str "news")]),
  ("data", ofFields [("daily", .str "bbc"), ("weekly", .str "nbc")])]

def cluster : Cluster := .start ⟨[
  (⟨.hotNews, "news", "top"⟩, hotNewsToJson query),
  (⟨.hotNews, "news", "low"⟩, hotNewsToJson failing),
  (⟨.feeds, "news", "bbc"⟩, feedToJson (feed "bbc" [owner "v"])),
  (⟨.feeds, "news", "cnn"⟩, feedToJson refused),
  (⟨.configMaps, "news", "groups"⟩, groups)], 0⟩ [] []

def answer (request : AggregatorRequest) : Reply :=
  match request.verb with
  | .query => .answered 200 (.value (.arr [(article "A").toJson]))
  | _ =>
    if request.body = some (ofFields [("url", .str "http://bbc")]) then .answered 200 .empty
    else .answered 500 .empty

def env : Environment Cluster :=
  Cluster.environmentWith (Cluster.answering answer) fun n => if n = 0 then "now" else "later"

def top : Program Action := reconcileHotNews operator "news" "top"

def low : Program Action := reconcileHotNews operator "news" "low"

def bbc : Program Action := reconcileFeed operator "news" "bbc"

def cnn : Program Action := reconcileFeed operator "news" "cnn"

def unknownFeed : Failure := .ofCause (.query (.unknownFeed "weekly" "nbc"))

def refusal : Failure :=
  ⟨.aggregator (.rejected "http://aggregator/sources" 500 ""),
    ["failed to register source 'http://cnn'"]⟩

theorem wellFormed : cluster.store.WellFormed :=
  Store.wellFormed_of_forall (by decide) (by decide +kernel)

theorem decoded : decodeHotNews (hotNewsToJson failing) = some failing ∧
    decodeFeed (feedToJson (feed "bbc" [owner "v"])) = some (feed "bbc" [owner "v"]) ∧
    decodeFeed (feedToJson refused) = some refused := by decide +kernel

/-- How all of these reconciles end. -/
theorem outcomes : (top.run env cluster).1.toOption = some (.requeue (.ofSeconds 300)) ∧
    (∀ n ∈ resolvedIn operator query.spec.feedGroups "news"
      (feedNames (storedFeeds "news" cluster.store)) cluster.store,
      n ∈ feedNames (storedFeeds "news" (top.run env cluster).2.store)) ∧
    (bbc.run env cluster).1.toOption = some .awaitChange ∧
    Program.failure? (low.run env cluster).1 = some unknownFeed ∧
    Program.failure? (low.run env (low.run env cluster).2).1 = some unknownFeed ∧
    Program.failure? (cnn.run env cluster).1 = some refusal ∧
    Program.failure? (cnn.run env (cnn.run env cluster).2).1 = some refusal := by decide +kernel

end SteadyNews

open SteadyNews in
/-- A query and a feed that are brought up to date and then left alone, and a query and a feed of
which two reconciles fail. -/
theorem steadyNews_settles : cluster.store.WellFormed ∧ cluster.faults = [] ∧
    Settles env GroupedQuery.operator cluster ∧
    (∃ c₁ c₂, top.run env cluster = (.ok (.requeue (.ofSeconds 300)), c₁) ∧
      top.run env c₁ = (.ok (.requeue (.ofSeconds 300)), c₂) ∧ c₁.Reads c₂) ∧
    (∃ c₁ c₂, bbc.run env cluster = (.ok .awaitChange, c₁) ∧
      bbc.run env c₁ = (.ok .awaitChange, c₂) ∧ c₂.store = c₁.store) ∧
    (∃ c₁ c₂, low.run env cluster = (.error unknownFeed, c₁) ∧
      low.run env c₁ = (.error unknownFeed, c₂) ∧ c₁.Adds (·.patchesStatus = false) c₂) ∧
    ∃ c₁ c₂, cnn.run env cluster = (.error refusal, c₁) ∧
      cnn.run env c₁ = (.error refusal, c₂) ∧ c₁.Adds (·.patchesStatus = false) c₂ := by
  have hsettles : Settles env GroupedQuery.operator cluster := reconciles_settle wellFormed rfl
  obtain ⟨hlow, hbbc, hcnn⟩ := decoded
  refine ⟨wellFormed, rfl, hsettles, ?_, ?_, ?_, ?_⟩
  · have hrun : top.run env cluster = (.ok _, _) := Program.eq_ok_of_toOption outcomes.1
    obtain ⟨outcome, c, hagain, hknown, -⟩ :=
      hsettles.query rfl GroupedQuery.decode_query rfl rfl hrun
    obtain ⟨rfl, hreads⟩ := hknown outcomes.2.1
    exact ⟨_, c, hrun, hagain, hreads⟩
  · have hrun : bbc.run env cluster = (.ok _, _) := Program.eq_ok_of_toOption outcomes.2.2.1
    obtain ⟨_, c, _, _, -, hagain, hstore, -⟩ := hsettles.feed rfl hbbc rfl hrun
    exact ⟨_, c, hrun, hagain, hstore⟩
  · have hrun : low.run env cluster = (.error _, _) :=
      Program.eq_error_of_failure? outcomes.2.2.2.1
    have hagain : low.run env _ = (.error _, _) :=
      Program.eq_error_of_failure? outcomes.2.2.2.2.1
    exact ⟨_, _, hrun, hagain, hsettles.failingQuery rfl hlow rfl hrun hagain ⟨rfl, rfl⟩⟩
  · have hrun : cnn.run env cluster = (.error _, _) :=
      Program.eq_error_of_failure? outcomes.2.2.2.2.2.1
    have hagain : cnn.run env _ = (.error _, _) :=
      Program.eq_error_of_failure? outcomes.2.2.2.2.2.2
    exact ⟨_, _, hrun, hagain, hsettles.failingFeed rfl hcnn rfl hrun hagain ⟨rfl, rfl⟩⟩

namespace ReleasedFeed

open GroupedQuery

/-- A feed that is gone as soon as anything is written to it. -/
def released : Feed :=
  let f := feed "bbc" [owner "v"]
  { f with metadata := { f.metadata with
      deletionTimestamp := Timestamp.parse? "2025-01-01T00:00:00Z" } }

def cluster : Cluster := .start ⟨[
  (⟨.hotNews, "news", "top"⟩, hotNewsToJson query),
  (⟨.feeds, "news", "bbc"⟩, feedToJson released),
  (⟨.configMaps, "news", "groups"⟩, groups)], 0⟩ [] []

def unknownFeed : Failure := .ofCause (.query (.unknownFeed "daily" "bbc"))

theorem outcomes : (SteadyNews.top.run SteadyNews.env cluster).1.toOption =
      some (.requeue (.ofSeconds 300)) ∧
    Program.failure? (SteadyNews.top.run SteadyNews.env
      (SteadyNews.top.run SteadyNews.env cluster).2).1 = some unknownFeed := by
  decide +kernel

end ReleasedFeed

open ReleasedFeed in
/-- A query that takes a feed which is released by this ends well once, and not again. -/
theorem releasedFeed_unsettled : cluster.store.WellFormed ∧ cluster.faults = [] ∧
    cluster.store.find? ⟨.hotNews, "news", "top"⟩ = some (hotNewsToJson GroupedQuery.query) ∧
    decodeHotNews (hotNewsToJson GroupedQuery.query) = some GroupedQuery.query ∧
    GroupedQuery.query.metadata.isDeleting = false ∧
    GroupedQuery.query.metadata.uid = some "u" ∧
    ∃ c₁ c₂, SteadyNews.top.run SteadyNews.env cluster =
        (.ok (.requeue (.ofSeconds 300)), c₁) ∧
      SteadyNews.top.run SteadyNews.env c₁ = (.error unknownFeed, c₂) :=
  ⟨Store.wellFormed_of_forall (by decide) (by decide +kernel), rfl, rfl,
    GroupedQuery.decode_query, rfl, rfl, _, _, Program.eq_ok_of_toOption outcomes.1,
    Program.eq_error_of_failure? outcomes.2⟩

end Newsdesk
