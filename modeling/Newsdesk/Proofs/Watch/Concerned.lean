import Mathlib.Data.List.Nodup
import Newsdesk.Proofs.Cluster.Reads
import Newsdesk.Proofs.Cluster.Stored
import Newsdesk.Proofs.Ownership.Written
import Newsdesk.Proofs.Query.Groups
import Newsdesk.Watch.Affected

/-!
# Queries that a config map concerns

A query reads at most one config map, and of that one only the groups that it names. So it resolves
its groups to the same whether another config map is there or not, or one that defines none of its
groups (`fst_run_resolvedNames_eq`). When the queries of a namespace are listed, exactly those that
use a config map are concerned by its change (`fst_run_affectedByConfigMap`).
-/

namespace Newsdesk

open Json Text

/-! ## Clusters that differ in one object -/

namespace Cluster

/-- Nothing is scripted for a request, so the store answers it. -/
def Serves (request : ApiRequest) (c : Cluster) : Prop :=
  c.faults.take request.verb request.path = none

/-- An object that one cluster has is missing in another one; otherwise the API server answers
look-ups in both alike. -/
structure Lacks (key : ObjectKey) (c c' : Cluster) : Prop where
  gone : c'.store.find? key = none
  others : ∀ other, other ≠ key → c'.store.find? other = c.store.find? other
  faults : c'.faults = c.faults

variable {c c' : Cluster} {request : ApiRequest}

theorem fst_askApi_of_serves (h : c.Serves request) :
    (c.askApi request).1 = (c.store.answer request).1 := by
  unfold askApi
  rw [show c.faults.take request.verb request.path = none from h]

/-- What a script says does not depend on what is stored. -/
theorem fst_askApi_of_scripted (hfaults : c'.faults = c.faults) (h : ¬ c.Serves request) :
    (c'.askApi request).1 = (c.askApi request).1 := by
  unfold askApi
  rw [hfaults]
  cases hs : c.faults.take request.verb request.path with
  | none => exact absurd hs h
  | some reply => rfl

/-- Whether an object is missing shows in its own look-up only, and only if the store answers. -/
theorem Lacks.fst_askApi_get {key : ObjectKey} (h : c.Lacks key c') (collection : Collection)
    (ns name : String) :
    (c'.askApi (.get collection ns name)).1 = (c.askApi (.get collection ns name)).1 ∨
      key = ⟨collection, ns, name⟩ ∧
        (c.askApi (.get collection ns name)).1 = (c.store.answer (.get collection ns name)).1 ∧
        (c'.askApi (.get collection ns name)).1 = Store.notFound key := by
  by_cases hserves : c.Serves (.get collection ns name)
  · have hserves' : c'.Serves (.get collection ns name) := by
      unfold Serves
      rw [h.faults]
      exact hserves
    rw [fst_askApi_of_serves hserves, fst_askApi_of_serves hserves']
    by_cases hkey : key = ⟨collection, ns, name⟩
    · refine .inr ⟨hkey, rfl, ?_⟩
      subst hkey
      unfold Store.answer
      simp only [h.gone]
    · exact .inl (Store.answer_get_congr (h.others _ (Ne.symm hkey)))
  · exact .inl (fst_askApi_of_scripted h.faults hserves)

end Cluster

/-! ## Queries of a config map -/

/-- Whether a config map defines a group of a query. -/
def HotNews.uses (map : ConfigMap) (h : HotNews) : Bool :=
  map.data.any fun data => h.spec.feedGroups.any fun group => (data.lookup (trim group)).isSome

theorem usersOf_eq (map : ConfigMap) (queries : List HotNews) :
    usersOf map queries = (queries.filter (·.uses map)).map HotNews.ref := by
  unfold usersOf HotNews.uses
  cases map.data with
  | none => simp
  | some data => rfl

theorem affectedByConfigMap_eq (settings : Settings) (map : ConfigMap) :
    affectedByConfigMap settings map =
      if settings.selects map then do return usersOf map (← listQueries map.metadata.nsName)
      else pure [] := rfl

/-! ## Reading the config map -/

/-- Reads the config map of a name. -/
def readGroups (ns name : String) : Program (Option ConfigMap) :=
  (Program.getObject? ConfigMap ns name).within
    ("failed to read " ++ objectLabel "ConfigMap" ns name)

/-- What the groups of a query stand for when a config map was found, or none. -/
def namesFrom (h : HotNews) (feeds : List Feed) (found : Option ConfigMap) :
    Except QueryError (List String) :=
  match found.bind ConfigMap.data with
  | none => .ok []
  | some data => resolveGroups h.spec.feedGroups data (feedNames feeds)

section

variable {op : Operator} {h : HotNews} {feeds : List Feed}

theorem resolvedNames_of_ignored
    (hnone : h.spec.feedGroups = [] ∨ ¬ op.settings.feedGroupsEnabledIn h.metadata.nsName) :
    resolvedNames op h feeds = pure [] := if_pos hnone

theorem resolvedNames_of_enabled (hgroups : h.spec.feedGroups ≠ [])
    (henabled : op.settings.feedGroupsEnabledIn h.metadata.nsName) :
    resolvedNames op h feeds = readGroups h.metadata.nsName op.settings.configMapName >>=
      fun found => Program.ofExcept .query (namesFrom h feeds found) := by
  unfold resolvedNames
  rw [if_neg (by simp [hgroups, henabled])]
  refine congrArg (Program.bind _) (funext fun found => ?_)
  unfold namesFrom
  cases found.bind ConfigMap.data <;> rfl

/-- A config map that defines none of its groups is to a query as if it were not there. -/
theorem namesFrom_of_unused {map : ConfigMap} (hunused : h.uses map = false) :
    namesFrom h feeds (some map) = namesFrom h feeds none := by
  unfold HotNews.uses at hunused
  unfold namesFrom
  rw [Option.bind_some]
  cases hdata : map.data with
  | none => rfl
  | some data =>
    rw [hdata, Option.any_some, List.any_eq_false] at hunused
    exact resolveGroups_of_undefined fun group hgroup =>
      Option.not_isSome_iff_eq_none.1 (hunused group hgroup)

end

/-- How a step ends that only computes depends on how the steps before it have ended. -/
theorem Program.fst_run_bind_ofExcept {α β ε σ : Type} {env : Environment σ} {s : σ}
    (p : Program α) (cause : ε → Cause) (f : α → Except ε β) :
    ((p >>= fun a => ofExcept cause (f a)).run env s).1 =
      (p.run env s).1.bind fun a => (f a).mapError fun e => .ofCause (cause e) := by
  change ((p.bind _).run env s).1 = _
  rw [run_bind]
  rcases p.run env s with ⟨_ | a, s'⟩
  · rfl
  · change ((ofExcept cause (f a)).run env s').1 = _
    cases h : f a <;> simp [ofExcept, run, Except.bind, Except.mapError, h]

section

variable (ask : AggregatorRequest → Cluster → Reply × Cluster) (timeText : Nat → String)
  {c c' : Cluster} {key : ObjectKey} {x : Json} {map : ConfigMap}
  (hlacks : c.Lacks key c') (hx : c.store.find? key = some x)
  (hmap : ConfigMap.decode x = some map)
include hlacks hx hmap

/-- A config map is found unless it is missing; otherwise its look-up ends alike. -/
theorem fst_run_readGroups (ns name : String) :
    ((readGroups ns name).run (Cluster.environmentWith ask timeText) c').1 =
        ((readGroups ns name).run (Cluster.environmentWith ask timeText) c).1 ∨
      key = ⟨.configMaps, ns, name⟩ ∧
        ((readGroups ns name).run (Cluster.environmentWith ask timeText) c).1 = .ok (some map) ∧
        ((readGroups ns name).run (Cluster.environmentWith ask timeText) c').1 = .ok none := by
  unfold readGroups
  rw [Program.run_within, Program.run_within, Program.run_getObject?_eq,
    Program.run_getObject?_eq]
  cases (ApiRequest.get (Resource.collection ConfigMap) ns name).invalid? with
  | some e => exact .inl rfl
  | none =>
    rcases hlacks.fst_askApi_get .configMaps ns name with hsame | ⟨hkey, hpresent, habsent⟩
    · refine .inl ?_
      change (Program.lookedUp (Reply.decode _ (c'.askApi _).1)).mapError _ =
        (Program.lookedUp (Reply.decode _ (c.askApi _).1)).mapError _
      rw [show Resource.collection ConfigMap = .configMaps from rfl, hsame]
    · refine .inr ⟨hkey, ?_, ?_⟩
      · change (Program.lookedUp (Reply.decode ConfigMap.decode (c.askApi _).1)).mapError _ = _
        rw [show Resource.collection ConfigMap = .configMaps from rfl, hpresent,
          Store.decode_answer_get.2 ⟨x, hkey ▸ hx, hmap⟩]
        rfl
      · change (Program.lookedUp (Reply.decode ConfigMap.decode (c'.askApi _).1)).mapError _ = _
        rw [show Resource.collection ConfigMap = .configMaps from rfl, habsent,
          Program.lookedUp_notFound]
        rfl

/-- A query that would not read a config map, or has no group in it, resolves its groups to the
same whether the config map is there or not. -/
theorem fst_run_resolvedNames_eq {op : Operator} {h : HotNews} {feeds : List Feed}
    (hunused : key = ⟨.configMaps, h.metadata.nsName, op.settings.configMapName⟩ →
      op.settings.feedGroupsEnabledIn h.metadata.nsName → h.uses map = false) :
    ((resolvedNames op h feeds).run (Cluster.environmentWith ask timeText) c').1 =
      ((resolvedNames op h feeds).run (Cluster.environmentWith ask timeText) c).1 := by
  by_cases hnone : h.spec.feedGroups = [] ∨
      ¬ op.settings.feedGroupsEnabledIn h.metadata.nsName
  · rw [resolvedNames_of_ignored hnone]
    rfl
  · obtain ⟨hgroups, henabled⟩ := not_or.1 hnone
    replace henabled := Decidable.not_not.1 henabled
    rw [resolvedNames_of_enabled hgroups henabled, Program.fst_run_bind_ofExcept,
      Program.fst_run_bind_ofExcept]
    rcases fst_run_readGroups ask timeText hlacks hx hmap h.metadata.nsName
      op.settings.configMapName with hsame | ⟨hkey, hpresent, habsent⟩
    · rw [hsame]
    · have hsame : namesFrom h feeds (some map) = namesFrom h feeds none :=
        namesFrom_of_unused (hunused hkey henabled)
      rw [hpresent, habsent]
      exact (congrArg (Except.mapError _) hsame).symm

end

/-! ## The queries that a change concerns -/

section

variable {s : Store} (hw : s.WellFormed) {ns : String} {queries : List HotNews}
  (hread : (s.select .hotNews (some ns) none).mapM decodeHotNews = some queries)
include hw hread

/-- Every query of a namespace is listed. -/
theorem mem_queries {name : String} {x : Json} {h : HotNews}
    (hx : s.find? ⟨.hotNews, ns, name⟩ = some x) (hd : decodeHotNews x = some h) :
    h ∈ queries := by
  have hlisted : x ∈ s.select .hotNews (some ns) none := by
    rw [Store.select_namespace]
    exact List.mem_map_of_mem (f := Prod.snd)
      ((Store.mem_entriesIn hw.distinct).2 ⟨hx, rfl, rfl⟩)
  obtain ⟨h', hmem, hd'⟩ := (mem_of_mapM hread).1 x hlisted
  cases hd.symm.trans hd'
  exact hmem

theorem ns_of_mem_queries {h : HotNews} (hmem : h ∈ queries) : h.metadata.ns = some ns := by
  obtain ⟨x, hlisted, hd⟩ := (mem_of_mapM hread).2 h hmem
  rw [Store.select_namespace] at hlisted
  obtain ⟨⟨key, x⟩, he, rfl⟩ := List.mem_map.1 hlisted
  obtain ⟨hx, -, rfl⟩ := (Store.mem_entriesIn hw.distinct).1 he
  exact (hw.metadata_eq hx hd).2

/-- No two listed queries have one reference. -/
theorem nodup_refs : (queries.map HotNews.ref).Nodup := by
  have hnames : queries.map (fun h => h.metadata.displayName) =
      (s.entriesIn .hotNews ns).map fun e => e.1.name := by
    refine map_displayName_of_mapM (fun ⟨key, x⟩ he h hd => ?_)
      (Store.select_namespace .hotNews ns s ▸ hread)
    exact (hw.name_eq ((Store.mem_entriesIn hw.distinct).1 he).1 hd).1
  have hnodup := Store.nodup_names_entriesIn hw.distinct .hotNews ns
  rw [← hnames] at hnodup
  refine List.Nodup.of_map ObjectRef.name ?_
  rw [List.map_map]
  exact hnodup

end

/-- The queries of a namespace that were listed are those that are stored. -/
theorem Cluster.read_of_run_listObjects {c : Cluster}
    {ask : AggregatorRequest → Cluster → Reply × Cluster} {timeText : Nat → String} {ns : String}
    {queries : List HotNews} (hserves : c.Serves (.list .hotNews (some ns) none))
    (hlist : ((Program.listObjects HotNews ns).run (environmentWith ask timeText) c).1 =
      .ok queries) :
    (c.store.select .hotNews (some ns) none).mapM decodeHotNews = some queries := by
  obtain ⟨-, hread, -⟩ := Program.run_listObjects_eq_ok.1
    (Program.eq_ok_of_toOption (a := queries) (by rw [hlist]; rfl))
  change (c.askApi _).1.decode _ = _ at hread
  rw [show Resource.collection HotNews = .hotNews from rfl, fst_askApi_of_serves hserves] at hread
  exact Store.decode_answer_list.1 hread

/-- When the queries are listed, a change concerns those that use the config map, each once and
in the order of the list. -/
theorem fst_run_affectedByConfigMap {σ : Type} {env : Environment σ} {s : σ} {map : ConfigMap}
    {queries : List HotNews} (settings : Settings)
    (hlist : ((Program.listObjects HotNews map.metadata.nsName).run env s).1 = .ok queries) :
    ((affectedByConfigMap settings map).run env s).1 =
      .ok ((queries.filter fun h => settings.selects map && h.uses map).map HotNews.ref) := by
  rw [affectedByConfigMap_eq]
  cases hselects : settings.selects map with
  | false => simp [Program.run, pure]
  | true =>
    obtain ⟨s', hlist⟩ : ∃ s', (Program.listObjects HotNews map.metadata.nsName).run env s =
        (.ok queries, s') := ⟨_, Program.eq_ok_of_toOption (a := queries) (by rw [hlist]; rfl)⟩
    have hqueries : (listQueries map.metadata.nsName).run env s = (.ok queries, s') :=
      Program.run_bind_eq_ok.2 ⟨_, s', Program.run_attempt_eq_ok.2 hlist, rfl⟩
    rw [if_pos rfl, Program.run_bind_eq_ok.2 ⟨queries, s', hqueries, rfl⟩, usersOf_eq]
    simp

end Newsdesk
