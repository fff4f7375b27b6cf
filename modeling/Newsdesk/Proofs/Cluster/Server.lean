import Newsdesk.Proofs.Cluster.Written

/-!
# API servers

What is relied on of an API server, and no more: a stored object has a version; an accepted write
gives it one that it never had before; a patch that names another version than the stored one is
refused and changes nothing (`ApiServer.Accepts`). Any call may fail, and a write whose reply is
lost may have been accepted; but what is read out of a reply is what is stored
(`ApiServer.Serves`).

Since versions are never used twice, an object that was seen once is still the stored one as long
as the stored version is its version (`ApiServer.Known`), whoever writes in between.
-/

namespace Newsdesk

open Json

/-- The version of an object, as its readers take it. -/
def readVersion (x : Json) : Option String := (metadataOf x).bind Metadata.resourceVersion

theorem readVersion_of_versionOf {x : Json} (h : InOrder x) {m : Metadata}
    (hm : metadataOf x = some m) {v : String} (hv : Store.versionOf x = .str v) :
    readVersion x = some v := by
  have hr := ((metadataOf_eq_some_iff h).1 hm).2.resourceVersion
  have hf : (x.field "metadata").field? "resourceVersion" = some (.str v) := by
    change ((x.field "metadata").field? "resourceVersion").getD .null = _ at hv
    cases hf : (x.field "metadata").field? "resourceVersion" with
    | none => simp [hf] at hv
    | some y => simpa [hf] using hv
  have hmv : m.resourceVersion = some v := by simpa [hf, decodeNullable] using hr.symm
  simp [readVersion, hm, hmv]

/-- The state of an API server: the objects, and all versions that the object of a key has had.
Objects are stored under their names, and with a version. -/
structure ApiServer where
  object : ObjectKey → Option Json
  used : ObjectKey → List String
  inOrder : ∀ {key x}, object key = some x → InOrder x
  placed : ∀ {key x}, object key = some x →
    ∃ m, metadataOf x = some m ∧ m.name = some key.name ∧ m.nsName = key.ns
  versioned : ∀ {key x}, object key = some x → ∃ v ∈ used key, readVersion x = some v

namespace ApiServer

/-! ## Writes -/

/-- A patch of the object of a key is accepted: `new` takes the place of `old`, unless nothing
holds up its deletion any more. -/
structure Accepts (s : ApiServer) (key : ObjectKey) (patch old new : Json) (s' : ApiServer) :
    Prop where
  stored : s.object key = some old
  current : Store.isStale patch old = false
  fresh : ∃ version, version ∉ s.used key ∧ version ∈ s'.used key ∧
    new = written version patch old
  object : ∀ k, s'.object k =
    if k = key then (if Store.isReleased new then none else some new) else s.object k
  used : ∀ k, s.used k ⊆ s'.used k

/-- From one state to a later one: versions stay used, and an object with a version that was used
before is the object that was stored before. -/
structure Evolves (s s' : ApiServer) : Prop where
  used : ∀ k, s.used k ⊆ s'.used k
  object : ∀ {k x v}, s'.object k = some x → readVersion x = some v → v ∈ s.used k →
    s.object k = some x

theorem Evolves.refl (s : ApiServer) : s.Evolves s :=
  ⟨fun _ => List.Subset.refl _, fun h _ _ => h⟩

theorem Accepts.evolves {s s' : ApiServer} {key : ObjectKey} {patch old new : Json}
    (h : s.Accepts key patch old new s') : s.Evolves s' := by
  refine ⟨h.used, fun {k x v} hx hv hused => ?_⟩
  rw [h.object] at hx
  split at hx
  · rename_i hk
    subst hk
    -- the new object has a fresh version, so its version was not used before
    split at hx
    · cases hx
    · cases hx
      obtain ⟨version, hfresh, -, rfl⟩ := h.fresh
      have hmeta : ∃ m, metadataOf (written version patch old) = some m := by
        obtain ⟨m, hm, -⟩ := Option.bind_eq_some_iff.1 hv
        exact ⟨m, hm⟩
      obtain ⟨m, hm⟩ := hmeta
      have hobject : s'.object k = some (written version patch old) := by
        rw [h.object, if_pos rfl, if_neg ‹_›]
      have hversion := readVersion_of_versionOf (s'.inOrder hobject) hm
        (Store.versionOf_written version patch old)
      rw [hv] at hversion
      cases hversion
      exact absurd hused hfresh
  · exact hx

/-- A patch that names a version is accepted only if it is the stored one. -/
theorem Accepts.readVersion_old {s s' : ApiServer} {key : ObjectKey} {patch old new : Json}
    (h : s.Accepts key patch old new s') {v : String} (hv : Store.versionOf patch = .str v) :
    readVersion old = some v := by
  have hcurrent := h.current
  simp only [Store.isStale, hv, ne_eq, reduceCtorEq, not_false_eq_true, decide_true, Bool.true_and,
    decide_eq_false_iff_not, Decidable.not_not] at hcurrent
  obtain ⟨m, hm, -⟩ := s.placed h.stored
  exact readVersion_of_versionOf (s.inOrder h.stored) hm hcurrent.symm

/-! ## Seen objects -/

/-- An object that has been the object of a key: it is still stored if its version is. -/
def Known (s : ApiServer) (key : ObjectKey) (x : Json) : Prop :=
  ∃ v ∈ s.used key, readVersion x = some v ∧
    ∀ y, s.object key = some y → readVersion y = some v → y = x

theorem known_of_stored {s : ApiServer} {key : ObjectKey} {x : Json}
    (h : s.object key = some x) : s.Known key x := by
  obtain ⟨v, hused, hv⟩ := s.versioned h
  refine ⟨v, hused, hv, fun y hy _ => ?_⟩
  rw [h] at hy
  exact (Option.some.inj hy).symm

/-- What has been seen stays known, whatever is written. -/
theorem Known.evolves {s s' : ApiServer} {key : ObjectKey} {x : Json} (h : s.Known key x)
    (he : s.Evolves s') : s'.Known key x := by
  obtain ⟨v, hused, hv, hx⟩ := h
  exact ⟨v, he.used key hused, hv, fun y hy hyv => hx y (he.object hy hyv hused) hyv⟩

/-- A patch made from a seen object is accepted only while that object is stored. -/
theorem Accepts.old_eq {s s' : ApiServer} {key : ObjectKey} {patch old new x : Json}
    (h : s.Accepts key patch old new s') (hx : s.Known key x) {v : String}
    (hv : readVersion x = some v) (hpatch : Store.versionOf patch = .str v) : old = x := by
  obtain ⟨w, -, hw, hstored⟩ := hx
  rw [hv] at hw
  cases hw
  exact hstored old h.stored (h.readVersion_old hpatch)

/-! ## Feeds -/

theorem metadataOf_of_decodeFeed {s : ApiServer} {key : ObjectKey} {x : Json} {f : Feed}
    (hx : s.object key = some x) (hf : decodeFeed x = some f) :
    metadataOf x = some f.metadata := by
  obtain ⟨m, hm, -⟩ := s.placed hx
  have hobj : ∃ fields, x = .obj fields := by
    obtain ⟨⟨fields, hfield⟩, -⟩ := (metadataOf_eq_some_iff (s.inOrder hx)).1 hm
    cases x with
    | obj fields => exact ⟨fields, rfl⟩
    | _ => cases hfield
  exact ((CustomObject.decode_eq_some_iff (s.inOrder hx) hobj).1 hf).1

/-- A feed that has been read from the server. -/
structure Seen (s : ApiServer) (key : ObjectKey) (f : Feed) : Prop where
  name : f.metadata.name = some key.name
  ns : f.metadata.nsName = key.ns
  known : ∃ x, metadataOf x = some f.metadata ∧ s.Known key x

theorem seen_of_stored {s : ApiServer} {key : ObjectKey} {x : Json} {f : Feed}
    (hx : s.object key = some x) (hf : decodeFeed x = some f) : s.Seen key f := by
  obtain ⟨m, hm, hname, hns⟩ := s.placed hx
  have hfm := metadataOf_of_decodeFeed hx hf
  rw [hm] at hfm
  cases hfm
  exact ⟨hname, hns, x, hm, known_of_stored hx⟩

theorem Seen.evolves {s s' : ApiServer} {key : ObjectKey} {f : Feed} (h : s.Seen key f)
    (he : s.Evolves s') : s'.Seen key f :=
  ⟨h.name, h.ns, h.known.imp fun _ hx => ⟨hx.1, hx.2.evolves he⟩⟩

/-- A patch made from a feed as it was read is accepted only while its metadata are those that
were read. -/
theorem Accepts.metadataOf_old {s s' : ApiServer} {key : ObjectKey} {patch old new : Json}
    (h : s.Accepts key patch old new s') {f : Feed} (hf : s.Seen key f)
    (hpatch : Store.versionOf patch = nullableText f.metadata.resourceVersion) :
    metadataOf old = some f.metadata := by
  obtain ⟨x, hm, hknown⟩ := hf.known
  obtain ⟨v, -, hv, -⟩ := id hknown
  have hfv : f.metadata.resourceVersion = some v := by simpa [readVersion, hm] using hv
  rw [hfv] at hpatch
  rw [h.old_eq hknown hv hpatch]
  exact hm

/-! ## Requests -/

/-- The feeds of a namespace, in any order. -/
def Lists (s : ApiServer) (ns : String) (feeds : List Feed) : Prop :=
  (∀ f ∈ feeds, ∃ name x, s.object ⟨.feeds, ns, name⟩ = some x ∧ decodeFeed x = some f) ∧
    ∀ name x, s.object ⟨.feeds, ns, name⟩ = some x → ∃ f ∈ feeds, decodeFeed x = some f

theorem Lists.seen {s : ApiServer} {ns : String} {feeds : List Feed} (h : s.Lists ns feeds)
    {f : Feed} (hf : f ∈ feeds) : ∃ name, s.Seen ⟨.feeds, ns, name⟩ f := by
  obtain ⟨name, x, hx, hd⟩ := h.1 f hf
  exact ⟨name, seen_of_stored hx hd⟩

/-- What may come of a request about feeds. A reply that cannot be read is possible throughout,
also when a write has been accepted. -/
inductive Serves (s : ApiServer) : ApiRequest → Reply → ApiServer → Prop
  | get {ns name : String} {reply : Reply}
      (honest : ∀ f, reply.decode decodeFeed = .ok f →
        ∃ x, s.object ⟨.feeds, ns, name⟩ = some x ∧ decodeFeed x = some f) :
      Serves s (.get .feeds ns name) reply s
  | list {ns : String} {reply : Reply}
      (honest : ∀ feeds, reply.decode (decodeObjects decodeFeed) = .ok feeds → s.Lists ns feeds) :
      Serves s (.list .feeds (some ns) none) reply s
  | refuse {request : ApiRequest} {reply : Reply}
      (fails : ∀ f, reply.decode decodeFeed ≠ .ok f) (write : request.isWrite = true) :
      Serves s request reply s
  | patch {collection : Collection} {ns name : String} {body old new : Json} {reply : Reply}
      {s' : ApiServer} (accepts : s.Accepts ⟨collection, ns, name⟩ body old new s')
      (honest : ∀ f, reply.decode decodeFeed = .ok f → decodeFeed new = some f) :
      Serves s (.patch collection ns name body) reply s'
  | patchStatus {collection : Collection} {ns name : String} {body old new : Json} {reply : Reply}
      {s' : ApiServer}
      (accepts : s.Accepts ⟨collection, ns, name⟩ (Store.statusPart body) old new s')
      (honest : ∀ f, reply.decode decodeFeed = .ok f → decodeFeed new = some f) :
      Serves s (.patchStatus collection ns name body) reply s'

theorem Serves.evolves {s s' : ApiServer} {request : ApiRequest} {reply : Reply}
    (h : s.Serves request reply s') : s.Evolves s' := by
  cases h with
  | get => exact .refl s
  | list => exact .refl s
  | refuse => exact .refl s
  | patch accepts => exact accepts.evolves
  | patchStatus accepts => exact accepts.evolves

/-! ## Servers of at most one object -/

/-- What can be stored under a key, with a version among some. -/
structure Storable (key : ObjectKey) (used : List String) (x : Json) : Prop where
  inOrder : InOrder x
  placed : ∃ m, metadataOf x = some m ∧ m.name = some key.name ∧ m.nsName = key.ns
  versioned : ∃ v ∈ used, readVersion x = some v

/-- A server that stores one object. -/
def single {key : ObjectKey} {used : List String} {x : Json} (h : Storable key used x) :
    ApiServer where
  object k := if k = key then some x else none
  used _ := used
  inOrder hx := by
    obtain ⟨-, ⟨⟩⟩ := Option.ite_none_right_eq_some.1 hx
    exact h.inOrder
  placed hx := by
    obtain ⟨rfl, ⟨⟩⟩ := Option.ite_none_right_eq_some.1 hx
    exact h.placed
  versioned hx := by
    obtain ⟨-, ⟨⟩⟩ := Option.ite_none_right_eq_some.1 hx
    exact h.versioned

theorem single_object {key : ObjectKey} {used : List String} {x : Json} (h : Storable key used x) :
    (single h).object key = some x := if_pos rfl

/-- The only object of a server is replaced by its new form. -/
theorem accepts_single {key : ObjectKey} {patch old : Json} {used : List String} {version : String}
    (h : Storable key used old) (h' : Storable key (version :: used) (written version patch old))
    (hcurrent : Store.isStale patch old = false) (hfresh : version ∉ used)
    (hkept : Store.isReleased (written version patch old) = false) :
    (single h).Accepts key patch old (written version patch old) (single h') where
  stored := if_pos rfl
  current := hcurrent
  fresh := ⟨version, hfresh, List.mem_cons_self, rfl⟩
  object k := by
    simp only [single, hkept]
    split <;> simp
  used _ := List.subset_cons_self ..

/-- The only object of a server is replaced by another one with a version that was not used. -/
theorem evolves_single {key : ObjectKey} {x x' : Json} {used : List String} {version : String}
    (h : Storable key used x) (h' : Storable key (version :: used) x') 
    (hversion : readVersion x' = some version) (hfresh : version ∉ used) :
    (single h).Evolves (single h') where
  used _ := List.subset_cons_self ..
  object {k y v} hy hv hused := by
    obtain ⟨-, ⟨⟩⟩ := Option.ite_none_right_eq_some.1 hy
    rw [hversion] at hv
    cases hv
    exact absurd hused hfresh

/-- A server without objects. -/
def bare (used : ObjectKey → List String) : ApiServer where
  object _ := none
  used := used
  inOrder h := nomatch h
  placed h := nomatch h
  versioned h := nomatch h

/-- The only object of a server goes when nothing holds it up any more. -/
theorem accepts_bare {key : ObjectKey} {patch old : Json} {used : List String} (version : String)
    (h : Storable key used old) (hcurrent : Store.isStale patch old = false)
    (hfresh : version ∉ used) (hgone : Store.isReleased (written version patch old) = true) :
    (single h).Accepts key patch old (written version patch old)
      (bare fun _ => version :: used) where
  stored := if_pos rfl
  current := hcurrent
  fresh := ⟨version, hfresh, List.mem_cons_self, rfl⟩
  object k := by
    simp only [single, bare, hgone]
    split <;> simp
  used _ := List.subset_cons_self ..

end ApiServer

end Newsdesk
