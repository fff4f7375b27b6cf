import Newsdesk.Proofs.Association
import Newsdesk.Watch.Generation

/-!
# The trace of a watch

What the generation filter lets pass is decided by the trace of events before, whatever their
order. A key is *live* at a position with the generation of its last report (`LiveSince`), unless
the object was deleted since, or a listing that began after the report has ended. The memory of
the filter is exactly the live keys (`Represents`), which every event keeps; so all that the filter
answers can be read off the trace (`FollowsTrace`).
-/

namespace Newsdesk

variable {α ε : Type}

/-! ## Traces -/

section

variable (metadata : α → Metadata) (es : List (Except ε (WatchEvent α)))

/-- An event stands at a position; errors stand between the events. -/
def EventAt (i : Nat) (event : WatchEvent α) : Prop := es[i]? = some (.ok event)

/-- An object is reported to be there, in a listing or on its own. -/
def ReportedAt (i : Nat) (object : α) : Prop :=
  EventAt es i (.apply object) ∨ EventAt es i (.initApply object)

/-- A listing has begun at a position, and has neither been restarted nor ended before another. -/
structure ListingSince (p i : Nat) : Prop where
  before : p < i
  began : EventAt es p .init
  unbroken : ∀ m, p < m → m < i → ¬ EventAt es m .init ∧ ¬ EventAt es m .initDone

/-- The last report of a key before a position still counts there. -/
structure LiveSince (j i : Nat) (key : String) (generation : Option Int) : Prop where
  before : j < i
  reported : ∃ o, ReportedAt es j o ∧ (metadata o).watchKey = key ∧
    (metadata o).generation = generation
  last : ∀ m o, j < m → m < i → ReportedAt es m o → (metadata o).watchKey ≠ key
  kept : ∀ m o, j < m → m < i → EventAt es m (.delete o) → (metadata o).watchKey ≠ key
  listed : ∀ p m, j < p → m < i → ListingSince es p m → ¬ EventAt es m .initDone

/-- A key is live at a position with a generation. -/
def Live (i : Nat) (key : String) (generation : Option Int) : Prop :=
  ∃ j, LiveSince metadata es j i key generation

open Classical in
/-- What passes at a position, by the trace alone. -/
noncomputable def passes (i : Nat) : Except ε (WatchEvent α) → Option (Except ε α)
  | .error e => some (.error e)
  | .ok (.apply o) | .ok (.initApply o) =>
    if Live metadata es i (metadata o).watchKey (metadata o).generation then none
    else some (.ok o)
  | .ok (.delete o) =>
    if ∃ g, Live metadata es i (metadata o).watchKey g then some (.ok o) else none
  | .ok .init | .ok .initDone => none

end

/-! ## The filter along a trace -/

namespace GenerationFilter

/-- The filter after the events of a trace; errors leave it as it is. -/
def after (metadata : α → Metadata) (f : GenerationFilter) (es : List (Except ε (WatchEvent α))) :
    GenerationFilter :=
  es.foldl (fun f e => match e with
    | .ok event => (f.accept metadata event).2
    | .error _ => f) f

/-- The event at a position is worth a reconcile of an object. -/
def Admits (metadata : α → Metadata) (es : List (Except ε (WatchEvent α))) (i : Nat) (object : α) :
    Prop :=
  ∃ event, EventAt es i event ∧
    ((empty.after metadata (es.take i)).accept metadata event).1 = some object

end GenerationFilter

open GenerationFilter

section

variable {metadata : α → Metadata} {es : List (Except ε (WatchEvent α))} {i : Nat}

theorem EventAt.eq {event event' : WatchEvent α} (h : EventAt es i event)
    (h' : EventAt es i event') : event = event' := by
  have := h.symm.trans h'
  simpa using this

theorem ReportedAt.eq {o o' : α} (h : ReportedAt es i o) (h' : ReportedAt es i o') : o = o' := by
  rcases h with h | h <;> rcases h' with h' | h' <;> have he := h.eq h' <;> cases he <;> rfl

/-! ## One position more -/

/-- Only one listing is under way. -/
theorem ListingSince.eq {p q : Nat} (hp : ListingSince es p i) (hq : ListingSince es q i) :
    p = q := by
  rcases Nat.lt_trichotomy p q with h | h | h
  · exact absurd hq.began (hp.unbroken q h hq.before).1
  · exact h
  · exact absurd hp.began (hq.unbroken p h hp.before).1

/-- A listing is under way after a position if it began there, or if it was under way and the
position neither restarts nor ends it. -/
theorem listingSince_succ {p : Nat} :
    ListingSince es p (i + 1) ↔
      (p = i ∧ EventAt es i .init) ∨
        (ListingSince es p i ∧ ¬ EventAt es i .init ∧ ¬ EventAt es i .initDone) := by
  constructor
  · intro h
    by_cases hp : p = i
    · subst hp
      exact .inl ⟨rfl, h.began⟩
    · have hlt : p < i := by have := h.before; omega
      exact .inr ⟨⟨hlt, h.began, fun m hm hi => h.unbroken m hm (by omega)⟩,
        h.unbroken i hlt (by omega)⟩
  · rintro (⟨rfl, h⟩ | ⟨h, hi⟩)
    · exact ⟨by omega, h, fun m hm hi => by omega⟩
    · refine ⟨by have := h.before; omega, h.began, fun m hm hlt => ?_⟩
      by_cases hmi : m = i
      · subst hmi
        exact hi
      · exact h.unbroken m hm (by omega)

theorem listingSince_succ_of_not (hinit : ¬ EventAt es i .init) (hdone : ¬ EventAt es i .initDone)
    {p : Nat} : ListingSince es p (i + 1) ↔ ListingSince es p i := by
  rw [listingSince_succ]
  simp [hinit, hdone]

/-- The event at a position leaves the report of a key at an earlier one as the last that counts. -/
structure Spares (metadata : α → Metadata) (es : List (Except ε (WatchEvent α))) (j i : Nat)
    (key : String) : Prop where
  reported : ∀ o, ReportedAt es i o → (metadata o).watchKey ≠ key
  deleted : ∀ o, EventAt es i (.delete o) → (metadata o).watchKey ≠ key
  listed : EventAt es i .initDone → ∀ p, j < p → ¬ ListingSince es p i

theorem LiveSince.succ {j : Nat} {key : String} {g : Option Int}
    (h : LiveSince metadata es j i key g) (hi : Spares metadata es j i key) :
    LiveSince metadata es j (i + 1) key g where
  before := by have := h.before; omega
  reported := h.reported
  last m o hj hm hr := by
    by_cases hmi : m = i
    · subst hmi
      exact hi.reported o hr
    · exact h.last m o hj (by omega) hr
  kept m o hj hm hd := by
    by_cases hmi : m = i
    · subst hmi
      exact hi.deleted o hd
    · exact h.kept m o hj (by omega) hd
  listed p m hj hm hl := by
    by_cases hmi : m = i
    · subst hmi
      exact fun hdone => hi.listed hdone p hj hl
    · exact h.listed p m hj (by omega) hl

theorem LiveSince.pred {j : Nat} {key : String} {g : Option Int}
    (h : LiveSince metadata es j (i + 1) key g) (hj : j < i) :
    LiveSince metadata es j i key g ∧ Spares metadata es j i key := by
  refine ⟨⟨hj, h.reported, ?_, ?_, ?_⟩, ⟨?_, ?_, ?_⟩⟩
  · exact fun m o hm hi => h.last m o hm (by omega)
  · exact fun m o hm hi => h.kept m o hm (by omega)
  · exact fun p m hp hm => h.listed p m hp (by omega)
  · exact fun o => h.last i o hj (by omega)
  · exact fun o => h.kept i o hj (by omega)
  · exact fun hdone p hp hl => h.listed p i hp (by omega) hl hdone

theorem LiveSince.of_reported {o : α} (h : ReportedAt es i o) :
    LiveSince metadata es i (i + 1) (metadata o).watchKey (metadata o).generation where
  before := by omega
  reported := ⟨o, h, rfl, rfl⟩
  last m o hm hi := by omega
  kept m o hm hi := by omega
  listed p m hp hm hl := by have := hl.before; omega

/-- A key is live after a position if it is reported there, or if it was live and is spared. -/
theorem live_succ {key : String} {g : Option Int} :
    Live metadata es (i + 1) key g ↔
      (∃ o, ReportedAt es i o ∧ (metadata o).watchKey = key ∧ (metadata o).generation = g) ∨
        ∃ j, LiveSince metadata es j i key g ∧ Spares metadata es j i key := by
  constructor
  · rintro ⟨j, h⟩
    by_cases hj : j = i
    · subst hj
      exact .inl h.reported
    · exact .inr ⟨j, h.pred (by have := h.before; omega)⟩
  · rintro (⟨o, h, rfl, rfl⟩ | ⟨j, h, hi⟩)
    · exact ⟨i, .of_reported h⟩
    · exact ⟨j, h.succ hi⟩

theorem EventAt.iff_eq {event event' : WatchEvent α} (h : EventAt es i event) :
    EventAt es i event' ↔ event = event' :=
  ⟨h.eq, fun he => he ▸ h⟩

theorem ReportedAt.not_eventAt {o : α} (h : ReportedAt es i o) :
    ¬ EventAt es i .init ∧ ¬ EventAt es i .initDone ∧ ∀ o', ¬ EventAt es i (.delete o') := by
  rcases h with h | h <;> simp [h.iff_eq]

theorem spares_of_reported {o : α} (h : ReportedAt es i o) {j : Nat} {key : String} :
    Spares metadata es j i key ↔ (metadata o).watchKey ≠ key := by
  obtain ⟨-, hdone, hdelete⟩ := h.not_eventAt
  constructor
  · intro hs
    exact hs.reported o h
  · intro hne
    exact ⟨fun o' h' => h.eq h' ▸ hne, fun o' h' => absurd h' (hdelete o'),
      fun h' => absurd h' hdone⟩

theorem spares_of_deleted {o : α} (h : EventAt es i (.delete o)) {j : Nat} {key : String} :
    Spares metadata es j i key ↔ (metadata o).watchKey ≠ key := by
  constructor
  · intro hs
    exact hs.deleted o h
  · intro hne
    refine ⟨fun o' h' => absurd h (h'.not_eventAt.2.2 o), fun o' h' => ?_, fun h' => ?_⟩
    · cases h.eq h'
      exact hne
    · cases h.eq h'

theorem spares_of_initDone (h : EventAt es i .initDone) {j : Nat} {key : String} :
    Spares metadata es j i key ↔ ∀ p, j < p → ¬ ListingSince es p i := by
  constructor
  · intro hs
    exact hs.listed h
  · intro hl
    refine ⟨fun o' h' => absurd h h'.not_eventAt.2.1, fun o' h' => ?_, fun _ => hl⟩
    cases h.eq h'

theorem spares_of_init (h : EventAt es i .init) (j : Nat) (key : String) :
    Spares metadata es j i key where
  reported o' h' := absurd h h'.not_eventAt.1
  deleted o' h' := by cases h.eq h'
  listed h' := by cases h.eq h'

theorem not_eventAt_of_error {e : ε} (h : es[i]? = some (.error e)) (event : WatchEvent α) :
    ¬ EventAt es i event := by simp [EventAt, h]

theorem spares_of_error {e : ε} (h : es[i]? = some (.error e)) (j : Nat) (key : String) :
    Spares metadata es j i key where
  reported o' h' := by rcases h' with h' | h' <;> exact absurd h' (not_eventAt_of_error h _)
  deleted o' h' := absurd h' (not_eventAt_of_error h _)
  listed h' := absurd h' (not_eventAt_of_error h _)

/-! ## The memory of the filter -/

/-- A filter remembers the live keys of a position with their generations, and the keys that the
listing under way has reported. -/
structure Represents (metadata : α → Metadata) (es : List (Except ε (WatchEvent α))) (i : Nat)
    (f : GenerationFilter) : Prop where
  distinct : (f.seen.map Prod.fst).Nodup
  seen : ∀ key g, f.seen.lookup key = some g ↔ Live metadata es i key g
  idle : f.relisted = none → ∀ p, ¬ ListingSince es p i
  listing : ∀ keys, f.relisted = some keys → ∃ p, ListingSince es p i ∧ ∀ key, key ∈ keys ↔
    ∃ m o, p < m ∧ m < i ∧ ReportedAt es m o ∧ (metadata o).watchKey = key

theorem lookup_forget (key other : String) (seen : List (String × Option Int)) :
    (forget key seen).lookup other = if other = key then none else seen.lookup other := by
  unfold forget
  rw [lookup_filter_key (fun k => decide (k ≠ key))]
  by_cases h : other = key <;> simp [h]

theorem nodup_filter {seen : List (String × Option Int)} (h : (seen.map Prod.fst).Nodup)
    (p : String × Option Int → Bool) : ((seen.filter p).map Prod.fst).Nodup :=
  (List.filter_sublist.map _).nodup h

theorem not_mem_forget (key : String) (seen : List (String × Option Int)) :
    key ∉ (forget key seen).map Prod.fst := by
  intro h
  obtain ⟨e, he, rfl⟩ := List.mem_map.1 h
  simp [forget] at he

/-- Before the first event nothing is live. -/
theorem represents_empty : Represents metadata es 0 .empty where
  distinct := List.nodup_nil
  seen key g := by
    constructor
    · intro h
      cases h
    · rintro ⟨j, h⟩
      exact absurd h.before (Nat.not_lt_zero j)
  idle _ p h := absurd h.before (Nat.not_lt_zero p)
  listing keys h := by cases h

theorem Represents.reported {f : GenerationFilter} {o : α} (h : Represents metadata es i f)
    (hr : ReportedAt es i o) :
    Represents metadata es (i + 1)
      (f.observe (metadata o).watchKey (metadata o).generation).2 := by
  obtain ⟨hinit, hdone, -⟩ := hr.not_eventAt
  refine ⟨?_, fun key g => ?_, fun hnone p => ?_, fun keys hkeys => ?_⟩
  · exact List.nodup_cons.2 ⟨not_mem_forget _ _, nodup_filter h.distinct _⟩
  · rw [live_succ]
    simp only [observe, spares_of_reported hr, List.lookup_cons, lookup_forget]
    by_cases hk : (metadata o).watchKey = key
    · subst hk
      simp only [beq_self_eq_true, Option.some.injEq]
      constructor
      · rintro rfl
        exact .inl ⟨o, hr, rfl, rfl⟩
      · rintro (⟨o', hr', -, rfl⟩ | ⟨j, -, hne⟩)
        · rw [hr.eq hr']
        · exact absurd rfl hne
    · have hk' : (key == (metadata o).watchKey) = false := beq_eq_false_iff_ne.2 (Ne.symm hk)
      simp only [hk', if_neg (Ne.symm hk), h.seen]
      constructor
      · rintro ⟨j, hj⟩
        exact .inr ⟨j, hj, hk⟩
      · rintro (⟨o', hr', he, -⟩ | ⟨j, hj, -⟩)
        · exact absurd (hr.eq hr' ▸ he) hk
        · exact ⟨j, hj⟩
  · rw [listingSince_succ_of_not hinit hdone]
    exact h.idle (by simpa [observe] using hnone) p
  · obtain ⟨old, hold, rfl⟩ : ∃ old, f.relisted = some old ∧
        (metadata o).watchKey :: old = keys := by simpa [observe] using hkeys
    obtain ⟨p, hp, hmem⟩ := h.listing old hold
    refine ⟨p, (listingSince_succ_of_not hinit hdone).2 hp, fun key => ?_⟩
    rw [List.mem_cons, hmem]
    constructor
    · rintro (rfl | ⟨m, o', hm, hi, hr', he⟩)
      · exact ⟨i, o, hp.before, by omega, hr, rfl⟩
      · exact ⟨m, o', hm, by omega, hr', he⟩
    · rintro ⟨m, o', hm, hi, hr', he⟩
      by_cases hmi : m = i
      · subst hmi
        exact .inl (hr.eq hr' ▸ he.symm)
      · exact .inr ⟨m, o', hm, by omega, hr', he⟩

/-- An event that reports nothing and neither begins nor ends a listing keeps its keys. -/
theorem Represents.keepListing {f : GenerationFilter} (h : Represents metadata es i f)
    (hinit : ¬ EventAt es i .init) (hdone : ¬ EventAt es i .initDone)
    (hnone : ∀ o, ¬ ReportedAt es i o) :
    (f.relisted = none → ∀ p, ¬ ListingSince es p (i + 1)) ∧
      ∀ keys, f.relisted = some keys → ∃ p, ListingSince es p (i + 1) ∧ ∀ key, key ∈ keys ↔
        ∃ m o, p < m ∧ m < i + 1 ∧ ReportedAt es m o ∧ (metadata o).watchKey = key := by
  refine ⟨fun hidle p => ?_, fun keys hkeys => ?_⟩
  · rw [listingSince_succ_of_not hinit hdone]
    exact h.idle hidle p
  · obtain ⟨p, hp, hmem⟩ := h.listing keys hkeys
    refine ⟨p, (listingSince_succ_of_not hinit hdone).2 hp, fun key => ?_⟩
    rw [hmem]
    constructor
    · rintro ⟨m, o, hm, hi, hr, he⟩
      exact ⟨m, o, hm, by omega, hr, he⟩
    · rintro ⟨m, o, hm, hi, hr, he⟩
      have hmi : m ≠ i := fun hmi => hnone o (hmi ▸ hr)
      exact ⟨m, o, hm, by omega, hr, he⟩

theorem Represents.deleted {f : GenerationFilter} {o : α} (h : Represents metadata es i f)
    (hd : EventAt es i (.delete o)) :
    Represents metadata es (i + 1) ⟨forget (metadata o).watchKey f.seen, f.relisted⟩ := by
  have hnone (o' : α) : ¬ ReportedAt es i o' := fun hr => hr.not_eventAt.2.2 o hd
  obtain ⟨hidle, hlisting⟩ :=
    h.keepListing (by simp [hd.iff_eq]) (by simp [hd.iff_eq]) hnone
  refine ⟨nodup_filter h.distinct _, fun key g => ?_, hidle, hlisting⟩
  rw [live_succ]
  simp only [spares_of_deleted hd, lookup_forget, hnone, false_and, exists_false, false_or]
  by_cases hk : key = (metadata o).watchKey
  · simp [hk]
  · simp only [if_neg hk, h.seen]
    constructor
    · rintro ⟨j, hj⟩
      exact ⟨j, hj, Ne.symm hk⟩
    · rintro ⟨j, hj, -⟩
      exact ⟨j, hj⟩

theorem Represents.init {f : GenerationFilter} (h : Represents metadata es i f)
    (hi : EventAt es i .init) : Represents metadata es (i + 1) ⟨f.seen, some []⟩ := by
  have hnone (o : α) : ¬ ReportedAt es i o := fun hr => hr.not_eventAt.1 hi
  refine ⟨h.distinct, fun key g => ?_, nofun, fun keys hkeys => ?_⟩
  · rw [live_succ]
    simp only [spares_of_init hi, hnone, false_and, exists_false, false_or, and_true]
    exact h.seen key g
  · cases hkeys
    refine ⟨i, listingSince_succ.2 (.inl ⟨rfl, hi⟩), fun key => ?_⟩
    constructor
    · intro hmem
      cases hmem
    · rintro ⟨m, o, hm, hlt, -⟩
      omega

/-- The end of a listing forgets exactly the keys that were last reported before it began. -/
theorem Represents.initDone {f : GenerationFilter} {keys : List String}
    (h : Represents metadata es i f) (hi : EventAt es i .initDone)
    (hkeys : f.relisted = some keys) :
    Represents metadata es (i + 1) ⟨f.seen.filter fun e => keys.contains e.1, none⟩ := by
  have hnone (o : α) : ¬ ReportedAt es i o := fun hr => hr.not_eventAt.2.1 hi
  obtain ⟨p, hp, hmem⟩ := h.listing keys hkeys
  refine ⟨nodup_filter h.distinct _, fun key g => ?_, fun _ q hq => ?_, nofun⟩
  · rw [live_succ, lookup_filter_key (fun k => keys.contains k)]
    simp only [spares_of_initDone hi, hnone, false_and, exists_false, false_or,
      List.contains_eq_mem, decide_eq_true_eq]
    constructor
    · intro hlookup
      split at hlookup
      · rename_i hk
        obtain ⟨m, o, hm, hlt, hr, he⟩ := (hmem key).1 hk
        obtain ⟨j, hj⟩ := (h.seen key g).1 hlookup
        -- the last report of the key is not before the one in the listing
        have hle : m ≤ j := Nat.le_of_not_lt fun hjm => hj.last m o hjm hlt hr he
        refine ⟨j, hj, fun q hq hlq => ?_⟩
        rw [hp.eq hlq] at hm
        omega
      · cases hlookup
    · rintro ⟨j, hj, hspared⟩
      obtain ⟨o, hr, he, -⟩ := hj.reported
      have hpj : p < j := by
        have hne : p ≠ j := fun hpj => hr.not_eventAt.1 (hpj ▸ hp.began)
        have hle : ¬ j < p := fun hjp => hspared p hjp hp
        omega
      rw [if_pos ((hmem key).2 ⟨j, o, hpj, hj.before, hr, he⟩)]
      exact (h.seen key g).2 ⟨j, hj⟩
  · rcases listingSince_succ.1 hq with ⟨-, hinit⟩ | ⟨-, -, hdone⟩
    · cases hinit.eq hi
    · exact hdone hi

/-- A stray end of a listing changes nothing. -/
theorem Represents.strayDone {f : GenerationFilter} (h : Represents metadata es i f)
    (hi : EventAt es i .initDone) (hidle : f.relisted = none) :
    Represents metadata es (i + 1) f := by
  have hnone (o : α) : ¬ ReportedAt es i o := fun hr => hr.not_eventAt.2.1 hi
  refine ⟨h.distinct, fun key g => ?_, fun _ q hq => ?_, fun keys hkeys => ?_⟩
  · rw [live_succ]
    simp only [spares_of_initDone hi, hnone, false_and, exists_false, false_or]
    rw [h.seen]
    constructor
    · rintro ⟨j, hj⟩
      exact ⟨j, hj, fun p _ => h.idle hidle p⟩
    · rintro ⟨j, hj, -⟩
      exact ⟨j, hj⟩
  · rcases listingSince_succ.1 hq with ⟨-, hinit⟩ | ⟨-, -, hdone⟩
    · cases hinit.eq hi
    · exact hdone hi
  · rw [hidle] at hkeys
    cases hkeys

theorem Represents.error {f : GenerationFilter} {e : ε} (h : Represents metadata es i f)
    (he : es[i]? = some (.error e)) : Represents metadata es (i + 1) f := by
  have hnot (event : WatchEvent α) : ¬ EventAt es i event := not_eventAt_of_error he event
  have hnone (o : α) : ¬ ReportedAt es i o := by simp [ReportedAt, hnot]
  obtain ⟨hidle, hlisting⟩ := h.keepListing (hnot _) (hnot _) hnone
  refine ⟨h.distinct, fun key g => ?_, hidle, hlisting⟩
  rw [live_succ]
  simp only [spares_of_error he, hnone, false_and, exists_false, false_or, and_true]
  exact h.seen key g

/-- Every event keeps the memory true to the trace. -/
theorem Represents.accept {f : GenerationFilter} {event : WatchEvent α}
    (h : Represents metadata es i f) (he : EventAt es i event) :
    Represents metadata es (i + 1) (f.accept metadata event).2 := by
  cases event with
  | apply o => exact h.reported (.inl he)
  | initApply o => exact h.reported (.inr he)
  | delete o => exact h.deleted he
  | init => exact h.init he
  | initDone =>
    unfold GenerationFilter.accept
    cases hr : f.relisted with
    | some keys => exact h.initDone he hr
    | none => exact h.strayDone he hr

/-- At every position of a trace the memory is true to it. -/
theorem represents_after (hi : i ≤ es.length) :
    Represents metadata es i (empty.after metadata (es.take i)) := by
  induction i with
  | zero => exact represents_empty
  | succ i ih =>
    have hlt : i < es.length := by omega
    have hrep := ih (by omega)
    rw [List.take_succ_eq_append_getElem hlt]
    unfold after at hrep ⊢
    rw [List.foldl_append]
    cases he : es[i] with
    | ok event => exact hrep.accept (by simp [EventAt, List.getElem?_eq_getElem hlt, he])
    | error e =>
      have hat : es[i]? = some (.error e) := by simp [List.getElem?_eq_getElem hlt, he]
      exact hrep.error hat

/-! ## What the filter answers -/

open Classical in
/-- A filter that is true to the trace lets pass what the trace says. -/
theorem Represents.accept_eq_passes {f : GenerationFilter} {event : WatchEvent α}
    (h : Represents metadata es i f) :
    (f.accept metadata event).1.map .ok = passes metadata es i (.ok event) := by
  have hreport (o : α) : ((if decide (f.seen.lookup (metadata o).watchKey ≠
        some (metadata o).generation) then some o else none).map .ok : Option (Except ε α)) =
      if Live metadata es i (metadata o).watchKey (metadata o).generation then none
      else some (.ok o) := by
    by_cases hlive : Live metadata es i (metadata o).watchKey (metadata o).generation
    · simp [hlive, (h.seen _ _).2 hlive]
    · have hne : f.seen.lookup (metadata o).watchKey ≠ some (metadata o).generation :=
        fun he => hlive ((h.seen _ _).1 he)
      simp [hlive, hne]
  cases event with
  | apply o => exact hreport o
  | initApply o => exact hreport o
  | delete o =>
    unfold GenerationFilter.accept passes
    dsimp only
    cases hl : f.seen.lookup (metadata o).watchKey with
    | some g =>
      have hlive : ∃ g, Live metadata es i (metadata o).watchKey g := ⟨g, (h.seen _ _).1 hl⟩
      simp [hlive]
    | none =>
      have hdead : ¬ ∃ g, Live metadata es i (metadata o).watchKey g := by
        rintro ⟨g, hg⟩
        cases hl.symm.trans ((h.seen _ _).2 hg)
      simp [hdead]
  | init => rfl
  | initDone =>
    unfold GenerationFilter.accept passes
    dsimp only
    split <;> rfl

theorem admits_iff_passes {o : α} :
    Admits metadata es i o ↔
      ∃ event, EventAt es i event ∧ passes metadata es i (.ok event) = some (.ok o) := by
  refine exists_congr fun event => and_congr_right fun he => ?_
  have hlt : i < es.length := (List.getElem?_eq_some_iff.1 he).1
  rw [← (represents_after (by omega)).accept_eq_passes]
  simp

open Classical in
theorem admits_of_reported {o o' : α} (h : ReportedAt es i o) :
    Admits metadata es i o' ↔
      o = o' ∧ ¬ Live metadata es i (metadata o).watchKey (metadata o).generation := by
  rw [admits_iff_passes]
  have hevent {event : WatchEvent α} (he : EventAt es i event)
      (hp : passes metadata es i (.ok event) =
        if Live metadata es i (metadata o).watchKey (metadata o).generation then none
        else some (.ok o)) :
      (∃ event, EventAt es i event ∧ passes metadata es i (.ok event) = some (.ok o')) ↔
        o = o' ∧ ¬ Live metadata es i (metadata o).watchKey (metadata o).generation := by
    simp only [he.iff_eq, exists_eq_left', hp]
    by_cases hlive : Live metadata es i (metadata o).watchKey (metadata o).generation <;>
      simp [hlive]
  rcases h with h | h
  · exact hevent h rfl
  · exact hevent h rfl

/-- The last report of a live key that was admitted has its generation. -/
theorem Live.admitted {key : String} {g : Option Int} (h : Live metadata es i key g) :
    ∃ j o, j < i ∧ ReportedAt es j o ∧ Admits metadata es j o ∧ (metadata o).watchKey = key ∧
      (metadata o).generation = g ∧
      ∀ m o', j < m → m < i → ReportedAt es m o' → Admits metadata es m o' →
        (metadata o').watchKey ≠ key := by
  induction i using Nat.strongRecOn with
  | ind i ih =>
    obtain ⟨j, hj⟩ := h
    obtain ⟨o, hr, rfl, rfl⟩ := hj.reported
    by_cases hadmit : Admits metadata es j o
    · exact ⟨j, o, hj.before, hr, hadmit, rfl, rfl, fun m o' hm hi hr' _ =>
        hj.last m o' hm hi hr'⟩
    · -- the last report was not admitted, so the key was live with this generation before it
      have hlive : Live metadata es j (metadata o).watchKey (metadata o).generation :=
        Classical.not_not.1 fun hn => hadmit ((admits_of_reported hr).2 ⟨rfl, hn⟩)
      obtain ⟨j', o', hlt, hr', hadmit', hk, hg, hlast⟩ := ih j hj.before hlive
      refine ⟨j', o', by have := hj.before; omega, hr', hadmit', hk, hg, ?_⟩
      intro m p hm hi hrm hpm
      rcases Nat.lt_trichotomy m j with hmj | rfl | hmj
      · exact hlast m p hm hmj hrm hpm
      · exact absurd (hr.eq hrm ▸ hpm) hadmit
      · exact hj.last m p hmj hi hrm

/-- The rest of a stream passes as the trace says. -/
theorem stream_eq_passes {f : GenerationFilter} {done rest : List (Except ε (WatchEvent α))}
    (h : Represents metadata (done ++ rest) done.length f) :
    stream metadata f rest =
      (rest.zipIdx done.length).filterMap fun e => passes metadata (done ++ rest) e.2 e.1 := by
  induction rest generalizing done f with
  | nil => rfl
  | cons e rest ih =>
    have hsplit : done ++ e :: rest = (done ++ [e]) ++ rest := by simp
    have hat : (done ++ e :: rest)[done.length]? = some e := by simp
    have hlength : (done ++ [e]).length = done.length + 1 := by simp
    rw [List.zipIdx_cons, List.filterMap_cons]
    cases e with
    | error e =>
      have hnext := h.error hat
      rw [hsplit, ← hlength] at hnext
      have hrest := ih hnext
      rw [hlength, ← hsplit] at hrest
      simp only [stream, passes, hrest]
    | ok event =>
      have hnext := h.accept hat
      rw [hsplit, ← hlength] at hnext
      have hrest := ih hnext
      rw [hlength, ← hsplit] at hrest
      simp only [stream, ← h.accept_eq_passes]
      cases hacc : f.accept metadata event with
      | mk admitted f' =>
        rw [hacc] at hrest
        cases admitted with
        | none => exact hrest
        | some o => exact congrArg _ hrest

/-- A key is live with one generation only. -/
theorem Live.unique {key : String} {g g' : Option Int} (h : Live metadata es i key g)
    (h' : Live metadata es i key g') : g = g' := by
  obtain ⟨j, hj⟩ := h
  obtain ⟨j', hj'⟩ := h'
  obtain ⟨o, hr, hk, rfl⟩ := hj.reported
  obtain ⟨o', hr', hk', rfl⟩ := hj'.reported
  rcases Nat.lt_trichotomy j j' with hlt | rfl | hlt
  · exact absurd hk' (hj.last j' o' hlt hj'.before hr')
  · rw [hr.eq hr']
  · exact absurd hk (hj'.last j o hlt hj.before hr)

end

/-- The answers of the filter along a trace are decided by what is live. -/
structure FollowsTrace (metadata : α → Metadata) (es : List (Except ε (WatchEvent α))) : Prop where
  /-- Being live is being live with one generation. -/
  unique : ∀ {i key g g'}, Live metadata es i key g → Live metadata es i key g' → g = g'
  /-- A report is admitted unless its key is live with its generation. -/
  reported : ∀ {i o}, ReportedAt es i o → ∀ o', Admits metadata es i o' ↔
    o = o' ∧ ∀ g, Live metadata es i (metadata o).watchKey g → g ≠ (metadata o).generation
  /-- A deletion is admitted if its key is live. -/
  deleted : ∀ {i o}, EventAt es i (.delete o) → ∀ o', Admits metadata es i o' ↔
    o = o' ∧ ∃ g, Live metadata es i (metadata o).watchKey g
  /-- The bounds of a listing admit nothing. -/
  bounds : ∀ {i}, EventAt es i .init ∨ EventAt es i .initDone → ∀ o, ¬ Admits metadata es i o
  /-- As many objects are remembered as keys are live. -/
  tracked : ∀ i, i ≤ es.length → ∃ keys : List String, keys.Nodup ∧
    (∀ key, key ∈ keys ↔ ∃ g, Live metadata es i key g) ∧
    (empty.after metadata (es.take i)).tracked = keys.length
  /-- No change of generation is lost: the last report that was admitted has the live one. -/
  latest : ∀ {i key g}, Live metadata es i key g →
    ∃ j o, j < i ∧ ReportedAt es j o ∧ Admits metadata es j o ∧ (metadata o).watchKey = key ∧
      (metadata o).generation = g ∧
      ∀ m o', j < m → m < i → ReportedAt es m o' → Admits metadata es m o' →
        (metadata o').watchKey ≠ key
  /-- A stream passes on what is admitted and every error, in order. -/
  stream : stream metadata .empty es = es.zipIdx.filterMap fun e => passes metadata es e.2 e.1

/-- Whatever a watch reports, in whatever order, the filter follows the trace. -/
theorem generationFilter_followsTrace (metadata : α → Metadata)
    (es : List (Except ε (WatchEvent α))) : FollowsTrace metadata es where
  unique h h' := h.unique h'
  reported {i o} hr o' := by
    rw [admits_of_reported hr]
    refine and_congr_right fun _ => ?_
    constructor
    · rintro hnot g hg rfl
      exact hnot hg
    · intro hne hlive
      exact hne _ hlive rfl
  deleted {i o} hd o' := by
    rw [admits_iff_passes]
    simp only [hd.iff_eq, exists_eq_left', passes]
    by_cases hlive : ∃ g, Live metadata es i (metadata o).watchKey g
    · simp [hlive]
    · simp [hlive]
  bounds {i} hi o := by
    rw [admits_iff_passes]
    rcases hi with hi | hi <;> simp [hi.iff_eq, passes]
  tracked i hi := by
    have hrep : Represents metadata es i (empty.after metadata (es.take i)) := represents_after hi
    refine ⟨_, hrep.distinct, fun key => ?_, (List.length_map ..).symm⟩
    simp only [← hrep.seen, lookup_eq_some_iff_mem hrep.distinct]
    simp
  latest h := h.admitted
  stream := by
    have hstart : Represents metadata ([] ++ es) 0 .empty := represents_empty
    exact stream_eq_passes hstart

-- an object that a listing has not shown again is new when it comes back
example : stream id .empty ([.ok (.apply .empty), .ok .init, .error (), .ok .initDone,
    .ok (.apply .empty)] : List (Except Unit (WatchEvent Metadata))) =
      [.ok .empty, .error (), .ok .empty] := rfl

end Newsdesk
