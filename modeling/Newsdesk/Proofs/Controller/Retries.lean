import Mathlib.Data.Finset.Card
import Newsdesk.Cluster.Store
import Newsdesk.Controller.Basic
import Newsdesk.Proofs.Association

/-!
# Retries of many objects

All objects share one retry table. Still every object is retried as if it were alone: the delays
that it is given are those of a schedule of its own over its own attempts (`Isolated`). The table
holds exactly the keys whose latest attempt has failed, each with a schedule that keeps its limit
(`RetryTable.Sound`), and objects have different keys as long as no namespace contains a slash.
-/

namespace Newsdesk

/-! ## Attempts -/

/-- An attempt on an object: how long it took and how it ended. -/
structure Attempt where
  object : ObjectKey
  elapsed : Duration
  outcome : Except Failure Action

/-- The key of an object in the retry table. The namespace of an object without one is empty. -/
def ObjectKey.retryKey (o : ObjectKey) : String := Newsdesk.retryKey o.collection.kind o.ns o.name

namespace Attempt

def key (a : Attempt) : String := a.object.retryKey

def failed (a : Attempt) : Bool :=
  match a.outcome with
  | .ok _ => false
  | .error _ => true

end Attempt

/-- What follows from attempts that are made one after the other, and the retry table after them;
`none` when a delay is no duration any more. -/
def followUps? (grow : Duration → Option Duration) :
    List Attempt → RetryTable → Option (List FollowUp × RetryTable)
  | [], t => some ([], t)
  | a :: rest, t => do
    let next ← FollowUp.ofOutcomeWith? grow a.object.collection.kind a.key a.elapsed a.outcome t
    let (later, t) ← followUps? grow rest next.retries
    return (next :: later, t)

/-! ## One schedule -/

namespace Backoff

/-- The schedule after a failure, when every delay can grow. -/
def grown (grow : Duration → Duration) (b : Backoff) : Backoff :=
  { b with current := (grow b.current).atMost b.limit }

/-- The delays that a schedule gives for attempts in a row: one for each failure, and from the
start again after a success. -/
def delays (grow : Duration → Duration) : Backoff → List Attempt → List Duration
  | _, [] => []
  | b, a :: rest =>
    if a.failed then b.current :: delays grow (b.grown grow) rest else delays grow b.reset rest

/-- A schedule with some start and some limit, which it keeps. -/
structure Within (initial limit : Duration) (b : Backoff) : Prop where
  initial_eq : b.initial = initial.atMost limit
  limit_eq : b.limit = limit
  current_le : b.current ≤ limit

variable {grow : Duration → Duration} {initial limit : Duration} {b : Backoff}

theorem next?_grown (grow : Duration → Duration) (b : Backoff) :
    b.next? (fun d => some (grow d)) = some (b.current, b.grown grow) := rfl

theorem within_start (initial limit : Duration) : (start initial limit).Within initial limit :=
  ⟨rfl, rfl, Duration.atMost_le _ _⟩

theorem Within.grown (h : b.Within initial limit) : (b.grown grow).Within initial limit :=
  ⟨h.initial_eq, h.limit_eq, h.limit_eq ▸ Duration.atMost_le _ _⟩

theorem Within.reset (h : b.Within initial limit) : b.reset = start initial limit := by
  unfold Backoff.reset start
  rw [h.initial_eq, h.limit_eq]

end Backoff

/-! ## One attempt -/

namespace RetryTable

/-- The schedule of a key: a fresh one if the table has none. -/
def scheduleOf (t : RetryTable) (key : String) : Backoff :=
  (t.find? key).getD (.start t.initial t.limit)

def after (grow : Duration → Duration) (t : RetryTable) (a : Attempt) : RetryTable :=
  if a.failed then
    { t with entries := put a.key ((t.scheduleOf a.key).grown grow) t.entries }
  else t.reset a.key

/-- A table whose schedules have one start and one limit, one for each key. -/
structure Sound (initial limit : Duration) (t : RetryTable) : Prop where
  initial_eq : t.initial = initial
  limit_eq : t.limit = limit
  distinct : (t.entries.map Prod.fst).Nodup
  within : ∀ {key b}, t.find? key = some b → b.Within initial limit

theorem lookup_put (key other : String) (b : Backoff) (entries : List (String × Backoff)) :
    (put key b entries).lookup other = if other = key then some b else entries.lookup other := by
  induction entries with
  | nil =>
    by_cases h : other = key
    · simp [put, h]
    · simp [put, List.lookup_cons, beq_eq_false_iff_ne.2 h, h]
  | cons e rest ih =>
    obtain ⟨k, old⟩ := e
    unfold put
    split
    · rename_i hk
      subst hk
      by_cases h : other = k
      · simp [h]
      · simp [List.lookup_cons, beq_eq_false_iff_ne.2 h, h]
    · rename_i hk
      rw [List.lookup_cons, List.lookup_cons, ih]
      by_cases h : other = k
      · subst h
        simp [hk]
      · rw [beq_eq_false_iff_ne.2 h]

theorem map_fst_put (key : String) (b : Backoff) (entries : List (String × Backoff)) :
    (put key b entries).map Prod.fst =
      if key ∈ entries.map Prod.fst then entries.map Prod.fst
      else entries.map Prod.fst ++ [key] := by
  induction entries with
  | nil => rfl
  | cons e rest ih =>
    obtain ⟨k, old⟩ := e
    unfold put
    by_cases hk : k = key
    · simp [hk]
    · rw [if_neg hk, List.map_cons, ih]
      by_cases hm : key ∈ rest.map Prod.fst <;> simp [hm, Ne.symm hk]

theorem mem_keys_iff (t : RetryTable) (key : String) :
    key ∈ t.entries.map Prod.fst ↔ (t.find? key).isSome := by
  refine ⟨fun h => ?_, fun h => ?_⟩
  · obtain ⟨e, he, rfl⟩ := List.mem_map.1 h
    exact isSome_lookup_of_mem he
  · obtain ⟨b, hb⟩ := Option.isSome_iff_exists.1 h
    exact List.mem_map.2 ⟨_, mem_of_lookup hb, rfl⟩

variable {grow : Duration → Duration} {initial limit : Duration} {t : RetryTable} {a : Attempt}

/-- An attempt changes the schedule of its own key only. -/
theorem find?_after (grow : Duration → Duration) (t : RetryTable) (a : Attempt) (key : String) :
    (t.after grow a).find? key =
      if key = a.key then
        if a.failed then some ((t.scheduleOf key).grown grow) else none
      else t.find? key := by
  unfold after
  cases hf : a.failed with
  | true =>
    rw [if_pos rfl]
    refine (lookup_put _ _ _ _).trans ?_
    split
    · rename_i hk
      rw [if_pos rfl, hk]
    · rfl
  | false =>
    rw [if_neg Bool.false_ne_true]
    refine (lookup_filter_key (fun k => decide (k ≠ a.key)) key t.entries).trans ?_
    by_cases hk : key = a.key <;> simp [hk, find?]

theorem Sound.within_scheduleOf (h : t.Sound initial limit) (key : String) :
    (t.scheduleOf key).Within initial limit := by
  unfold scheduleOf
  cases hb : t.find? key with
  | some b => exact h.within hb
  | none =>
    rw [h.initial_eq, h.limit_eq]
    exact Backoff.within_start initial limit

theorem sound_empty (initial limit : Duration) : (empty initial limit).Sound initial limit :=
  ⟨rfl, rfl, List.nodup_nil, nofun⟩

theorem Sound.after (h : t.Sound initial limit) : (t.after grow a).Sound initial limit where
  initial_eq := by
    unfold RetryTable.after
    split <;> exact h.initial_eq
  limit_eq := by
    unfold RetryTable.after
    split <;> exact h.limit_eq
  distinct := by
    unfold RetryTable.after
    split
    · dsimp only
      rw [map_fst_put]
      split
      · exact h.distinct
      · rename_i hk
        exact List.nodup_append.2 ⟨h.distinct, by simp, by rintro _ hm _ hs rfl; simp_all⟩
    · exact (List.filter_sublist.map _).nodup h.distinct
  within {key b} hb := by
    rw [find?_after] at hb
    split at hb
    · split at hb
      · cases hb
        exact (h.within_scheduleOf key).grown
      · cases hb
    · exact h.within hb

end RetryTable

/-- The schedule of a key grows with a failure, is reset by a success, and is left alone by the
attempts under other keys. -/
theorem RetryTable.Sound.scheduleOf_after {initial limit : Duration} {t : RetryTable}
    (h : t.Sound initial limit) (grow : Duration → Duration) (a : Attempt) (key : String) :
    (t.after grow a).scheduleOf key =
      if key = a.key then
        if a.failed then (t.scheduleOf key).grown grow else (t.scheduleOf key).reset
      else t.scheduleOf key := by
  have hafter : (t.after grow a).Sound initial limit := h.after
  unfold scheduleOf
  rw [find?_after, hafter.initial_eq, hafter.limit_eq, h.initial_eq, h.limit_eq]
  split
  · split
    · rw [scheduleOf, h.initial_eq, h.limit_eq]
      rfl
    · have hreset := (h.within_scheduleOf key).reset
      rw [scheduleOf, h.initial_eq, h.limit_eq] at hreset
      rw [hreset]
      rfl
  · rfl

/-! ## Histories -/

section

variable {κ : Type} [DecidableEq κ] (who : Attempt → κ)

/-- The attempts on one of those that attempts are told apart by. -/
def attemptsOn (o : κ) (history : List Attempt) : List Attempt := history.filter (who · = o)

/-- Whether the latest attempt on someone has failed. -/
def isFailing (history : List Attempt) (o : κ) : Bool :=
  ((attemptsOn who o history).getLast?).any Attempt.failed

/-- All whose latest attempt has failed. -/
def failing (history : List Attempt) : Finset κ :=
  (history.map who).toFinset.filter fun o => isFailing who history o

def retriesOf (o : κ) (history : List Attempt) (followUps : List FollowUp) : List Action :=
  ((history.zip followUps).filter fun e => who e.1 = o && e.1.failed).map fun e => e.2.action

/-- Everyone is retried as if there were no others, where attempts are told apart by `who`. -/
structure Isolated (grow : Duration → Duration) (initial limit : Duration)
    (history : List Attempt) (followUps : List FollowUp) (t : RetryTable) : Prop where
  /-- Retries follow a schedule of one's own. -/
  delays : ∀ o, retriesOf who o history followUps =
    ((Backoff.start initial limit).delays grow (attemptsOn who o history)).map .requeue
  /-- A failure that is not preceded by another one waits for the initial delay. -/
  first : ∀ {before after a}, history = before ++ a :: after → a.failed = true →
    isFailing who before (who a) = false →
    (followUps[before.length]?).map FollowUp.action = some (.requeue (initial.atMost limit))
  /-- No failure waits longer than the limit. -/
  bounded : ∀ e ∈ history.zip followUps, e.1.failed = true →
    ∃ delay, e.2.action = .requeue delay ∧ delay ≤ limit
  /-- The table holds those whose latest attempt has failed. -/
  tracked : t.tracked = (failing who history).card

end

/-! ## Keys -/

section

variable {grow : Duration → Duration} {initial limit : Duration} {history rest : List Attempt}
  {a : Attempt} {followUps : List FollowUp} {t t' : RetryTable}

theorem FollowUp.ofOutcomeWith?_total (grow : Duration → Duration) (a : Attempt)
    (t : RetryTable) :
    ∃ next, ofOutcomeWith? (fun d => some (grow d)) a.object.collection.kind a.key a.elapsed
        a.outcome t = some next ∧ next.retries = t.after grow a ∧
      (a.failed = true → next.action = .requeue (t.scheduleOf a.key).current) := by
  unfold ofOutcomeWith? RetryTable.after Attempt.failed
  cases a.outcome with
  | ok action => exact ⟨_, rfl, rfl, nofun⟩
  | error failure =>
    simp only [RetryTable.nextDelayWith?, Backoff.next?_grown]
    exact ⟨_, rfl, rfl, fun _ => rfl⟩

theorem exists_followUps (grow : Duration → Duration) (history : List Attempt) (t : RetryTable) :
    ∃ followUps t', followUps? (fun d => some (grow d)) history t = some (followUps, t') := by
  induction history generalizing t with
  | nil => exact ⟨[], t, rfl⟩
  | cons a rest ih =>
    obtain ⟨next, hnext, -⟩ := FollowUp.ofOutcomeWith?_total grow a t
    obtain ⟨later, t', hlater⟩ := ih next.retries
    exact ⟨next :: later, t', by simp [followUps?, hnext, hlater]⟩

/-- Attempts are followed up one by one, a failure after the delay of its key. -/
theorem followUps?_cons
    (h : followUps? (fun d => some (grow d)) (a :: rest) t = some (followUps, t')) :
    ∃ next later, followUps = next :: later ∧
      (a.failed = true → next.action = .requeue (t.scheduleOf a.key).current) ∧
      followUps? (fun d => some (grow d)) rest (t.after grow a) = some (later, t') := by
  obtain ⟨next, hnext, hretries, haction⟩ := FollowUp.ofOutcomeWith?_total grow a t
  unfold followUps? at h
  obtain ⟨next', hnext', h⟩ := Option.bind_eq_some_iff.1 h
  cases hnext.symm.trans hnext'
  obtain ⟨⟨later, t₁⟩, hlater, h⟩ := Option.bind_eq_some_iff.1 h
  cases h
  exact ⟨next, later, rfl, haction, hretries ▸ hlater⟩

/-- A history is followed up part by part. -/
theorem followUps?_append (grow : Duration → Option Duration) (earlier later : List Attempt)
    (t : RetryTable) :
    followUps? grow (earlier ++ later) t = do
      let (before, t) ← followUps? grow earlier t
      let (after, t) ← followUps? grow later t
      return (before ++ after, t) := by
  induction earlier generalizing t with
  | nil => simp [followUps?]
  | cons a earlier ih =>
    simp only [List.cons_append, followUps?, ih, bind_assoc, pure_bind]

theorem length_of_followUps
    (h : followUps? (fun d => some (grow d)) history t = some (followUps, t')) :
    followUps.length = history.length := by
  induction history generalizing t followUps with
  | nil =>
    cases h
    rfl
  | cons a rest ih =>
    obtain ⟨_, later, rfl, -, hlater⟩ := followUps?_cons h
    rw [List.length_cons, List.length_cons, ih hlater]

theorem RetryTable.Sound.of_followUps (hs : t.Sound initial limit)
    (h : followUps? (fun d => some (grow d)) history t = some (followUps, t')) :
    t'.Sound initial limit := by
  induction history generalizing t followUps with
  | nil =>
    cases h
    exact hs
  | cons a rest ih =>
    obtain ⟨_, _, -, -, hlater⟩ := followUps?_cons h
    exact ih hs.after hlater

/-- After a history a key is in the table if the latest attempt under it has failed, or if there
was none and the key was in the table before. -/
theorem isSome_find?_of_followUps (key : String)
    (h : followUps? (fun d => some (grow d)) history t = some (followUps, t')) :
    (t'.find? key).isSome =
      (((attemptsOn Attempt.key key history).getLast?).map Attempt.failed).getD
        (t.find? key).isSome := by
  induction history generalizing t followUps with
  | nil =>
    cases h
    rfl
  | cons a rest ih =>
    obtain ⟨_, _, -, -, hlater⟩ := followUps?_cons h
    rw [ih hlater, RetryTable.find?_after]
    unfold attemptsOn
    by_cases hk : key = a.key
    · rw [List.filter_cons_of_pos (by simp [hk]), List.getLast?_cons, if_pos hk]
      cases (rest.filter (Attempt.key · = key)).getLast? with
      | none => cases hf : a.failed <;> simp [hf]
      | some last => rfl
    · rw [List.filter_cons_of_neg (by simpa using Ne.symm hk), if_neg hk]

/-- A key is retried by its schedule, whatever is done under other keys. -/
theorem retriesOf_eq_delays (hs : t.Sound initial limit) (key : String)
    (h : followUps? (fun d => some (grow d)) history t = some (followUps, t')) :
    retriesOf Attempt.key key history followUps =
      ((t.scheduleOf key).delays grow (attemptsOn Attempt.key key history)).map .requeue := by
  induction history generalizing t followUps with
  | nil =>
    cases h
    rfl
  | cons a rest ih =>
    obtain ⟨next, later, rfl, haction, hlater⟩ := followUps?_cons h
    -- for any table, since the schedule of the key moves with each attempt under it
    have hrest := ih hs.after hlater
    rw [hs.scheduleOf_after] at hrest
    unfold retriesOf attemptsOn at hrest ⊢
    rw [List.zip_cons_cons]
    by_cases hk : key = a.key
    · subst hk
      rw [List.filter_cons_of_pos (p := (Attempt.key · = a.key)) (by simp), Backoff.delays]
      cases hf : a.failed with
      | true =>
        rw [List.filter_cons_of_pos (by simp [hf]), List.map_cons, haction hf, hrest]
        simp [hf]
      | false =>
        rw [List.filter_cons_of_neg (by simp [hf]), hrest]
        simp [hf]
    · have hne : ¬ a.key = key := Ne.symm hk
      rw [List.filter_cons_of_neg (by simp [hne]), List.filter_cons_of_neg (by simpa using hne),
        hrest, if_neg hk]

theorem delay_le_of_followUps (hs : t.Sound initial limit)
    (h : followUps? (fun d => some (grow d)) history t = some (followUps, t')) :
    ∀ e ∈ history.zip followUps, e.1.failed = true →
      ∃ delay, e.2.action = .requeue delay ∧ delay ≤ limit := by
  induction history generalizing t followUps with
  | nil => simp
  | cons a rest ih =>
    obtain ⟨next, later, rfl, haction, hlater⟩ := followUps?_cons h
    intro e he hfailed
    rw [List.zip_cons_cons] at he
    rcases List.mem_cons.1 he with rfl | he
    · exact ⟨_, haction hfailed, (hs.within_scheduleOf a.key).current_le⟩
    · exact ih hs.after hlater e he hfailed

theorem isolated_keys
    (h : followUps? (fun d => some (grow d)) history (.empty initial limit) =
      some (followUps, t)) :
    Isolated Attempt.key grow initial limit history followUps t where
  delays key := retriesOf_eq_delays (RetryTable.sound_empty initial limit) key h
  first {before after a} hsplit hfailed hquiet := by
    subst hsplit
    rw [followUps?_append] at h
    obtain ⟨⟨done, t₁⟩, hbefore, h⟩ := Option.bind_eq_some_iff.1 h
    obtain ⟨⟨later, t₂⟩, hafter, h⟩ := Option.bind_eq_some_iff.1 h
    cases h
    obtain ⟨next, later, rfl, haction, -⟩ := followUps?_cons hafter
    have hs : t₁.Sound initial limit := (RetryTable.sound_empty initial limit).of_followUps hbefore
    -- a key that is not failing is not in the table, so its schedule starts afresh
    have hnone : t₁.find? a.key = none := by
      rw [← Option.not_isSome_iff_eq_none, isSome_find?_of_followUps a.key hbefore,
        Bool.not_eq_true]
      unfold isFailing at hquiet
      cases hlast : (attemptsOn Attempt.key a.key before).getLast? with
      | none => rfl
      | some last => simpa [hlast] using hquiet
    rw [← length_of_followUps hbefore, List.getElem?_append_right (Nat.le_refl _), Nat.sub_self]
    rw [List.getElem?_cons_zero, Option.map_some, haction hfailed, RetryTable.scheduleOf, hnone,
      hs.initial_eq, hs.limit_eq]
    rfl
  bounded := delay_le_of_followUps (RetryTable.sound_empty initial limit) h
  tracked := by
    have hs : t.Sound initial limit := (RetryTable.sound_empty initial limit).of_followUps h
    have hkeys : (t.entries.map Prod.fst).toFinset = failing Attempt.key history := by
      ext key
      have hsome := isSome_find?_of_followUps key h
      rw [List.mem_toFinset, RetryTable.mem_keys_iff, hsome, failing, Finset.mem_filter,
        isFailing]
      cases hlast : (attemptsOn Attempt.key key history).getLast? with
      | none => simp [RetryTable.empty, RetryTable.find?]
      | some last =>
        obtain ⟨hmem, hkey⟩ := List.mem_filter.1 (List.mem_of_getLast? hlast)
        have hknown : key ∈ (history.map Attempt.key).toFinset :=
          List.mem_toFinset.2 (List.mem_map.2 ⟨last, hmem, of_decide_eq_true hkey⟩)
        simp [hknown]
    rw [← hkeys, List.toFinset_card_of_nodup hs.distinct, List.length_map]
    rfl

end

/-! ## Objects -/

section

variable {κ κ' : Type} [DecidableEq κ] [DecidableEq κ'] {who : Attempt → κ} {φ : κ → κ'} {o : κ}
  {grow : Duration → Duration} {initial limit : Duration} {history part : List Attempt}
  {followUps : List FollowUp} {t : RetryTable}

theorem attemptsOn_comp (h : ∀ a ∈ part, φ (who a) = φ o → who a = o) :
    attemptsOn (fun a => φ (who a)) (φ o) part = attemptsOn who o part :=
  List.filter_congr fun a ha => decide_eq_decide.2 ⟨h a ha, congrArg φ⟩

theorem isFailing_comp (h : ∀ a ∈ part, φ (who a) = φ o → who a = o) :
    isFailing (fun a => φ (who a)) part (φ o) = isFailing who part o := by
  rw [isFailing, isFailing, attemptsOn_comp h]

theorem retriesOf_comp (h : ∀ a ∈ history, φ (who a) = φ o → who a = o) :
    retriesOf (fun a => φ (who a)) (φ o) history followUps = retriesOf who o history followUps := by
  unfold retriesOf
  congr 1
  refine List.filter_congr fun e he => ?_
  rw [decide_eq_decide.2 ⟨h e.1 (List.of_mem_zip he).1, congrArg φ⟩]

theorem retriesOf_eq_nil (h : ∀ a ∈ history, who a ≠ o) :
    retriesOf who o history followUps = [] := by
  unfold retriesOf
  rw [List.filter_eq_nil_iff.2 fun e he => by simp [h e.1 (List.of_mem_zip he).1], List.map_nil]

theorem mem_of_mem_failing (h : o ∈ failing who history) : ∃ a ∈ history, who a = o :=
  List.mem_map.1 (List.mem_toFinset.1 (Finset.mem_filter.1 h).1)

/-- Those who are told apart by what attempts are told apart by are isolated as well. -/
theorem Isolated.of_comp
    (h : Isolated (fun a => φ (who a)) grow initial limit history followUps t)
    (hinj : ∀ a ∈ history, ∀ b ∈ history, φ (who a) = φ (who b) → who a = who b) :
    Isolated who grow initial limit history followUps t where
  delays o := by
    by_cases ho : ∃ b ∈ history, who b = o
    · obtain ⟨b, hb, rfl⟩ := ho
      rw [← retriesOf_comp fun a ha => hinj a ha b hb, h.delays,
        attemptsOn_comp fun a ha => hinj a ha b hb]
    · have hnone : ∀ a ∈ history, who a ≠ o := fun a ha he => ho ⟨a, ha, he⟩
      have hattempts : attemptsOn who o history = [] :=
        List.filter_eq_nil_iff.2 fun a ha => by simp [hnone a ha]
      rw [retriesOf_eq_nil hnone, hattempts]
      rfl
  first {before after a} hsplit hfailed hquiet := by
    refine h.first hsplit hfailed ?_
    rw [isFailing_comp (o := who a), hquiet]
    subst hsplit
    exact fun b hb => hinj b (by simp [hb]) a (by simp)
  bounded := h.bounded
  tracked := by
    -- `φ` maps those who fail one to one onto the failing keys, which the table counts
    have himage : failing (fun a => φ (who a)) history = (failing who history).image φ := by
      ext k
      rw [Finset.mem_image]
      refine ⟨fun hk => ?_, ?_⟩
      · obtain ⟨b, hb, rfl⟩ := mem_of_mem_failing hk
        refine ⟨who b, Finset.mem_filter.2 ⟨?_, ?_⟩, rfl⟩
        · exact List.mem_toFinset.2 (List.mem_map.2 ⟨b, hb, rfl⟩)
        · rw [← isFailing_comp fun a ha => hinj a ha b hb]
          exact (Finset.mem_filter.1 hk).2
      · rintro ⟨o, ho, rfl⟩
        obtain ⟨b, hb, rfl⟩ := mem_of_mem_failing ho
        refine Finset.mem_filter.2 ⟨List.mem_toFinset.2 (List.mem_map.2 ⟨b, hb, rfl⟩), ?_⟩
        rw [isFailing_comp fun a ha => hinj a ha b hb]
        exact (Finset.mem_filter.1 ho).2
    rw [h.tracked, himage]
    refine Finset.card_image_of_injOn fun o ho o' ho' he => ?_
    obtain ⟨a, ha, rfl⟩ := mem_of_mem_failing ho
    obtain ⟨b, hb, rfl⟩ := mem_of_mem_failing ho'
    exact hinj a ha b hb he

end

/-! ## Namespaces -/

/-- Whether a namespace leaves the parts of a key apart. -/
def ObjectKey.IsPlain (o : ObjectKey) : Prop := '/' ∉ o.ns.toList

instance (o : ObjectKey) : Decidable o.IsPlain := inferInstanceAs (Decidable ('/' ∉ o.ns.toList))

theorem eq_of_append_slash_eq {part part' rest rest' : List Char} (h : '/' ∉ part)
    (h' : '/' ∉ part') (he : part ++ '/' :: rest = part' ++ '/' :: rest') :
    part = part' ∧ rest = rest' := by
  induction part generalizing part' with
  | nil =>
    cases part' with
    | nil => exact ⟨rfl, (List.cons.inj he).2⟩
    | cons c _ => exact absurd (List.mem_cons.2 (.inl (List.cons.inj he).1)) h'
  | cons c part ih =>
    cases part' with
    | nil => exact absurd (List.mem_cons.2 (.inl (List.cons.inj he).1.symm)) h
    | cons c' part' =>
      obtain ⟨rfl, hparts⟩ := List.cons.inj he
      obtain ⟨rfl, hrest⟩ := ih (fun hm => h (List.mem_cons_of_mem _ hm))
        (fun hm => h' (List.mem_cons_of_mem _ hm)) hparts
      exact ⟨rfl, hrest⟩

theorem toList_retryKey (kind ns name : String) :
    (retryKey kind ns name).toList = kind.toList ++ '/' :: (ns.toList ++ '/' :: name.toList) := by
  simp [retryKey]

theorem Collection.slash_notMem_kind (c : Collection) : '/' ∉ c.kind.toList := by
  cases c <;> decide

theorem Collection.kind_injective {c c' : Collection} (h : c.kind = c'.kind) : c = c' := by
  cases c <;> cases c' <;> first | rfl | exact absurd h (by decide)

theorem ObjectKey.eq_of_retryKey_eq {o o' : ObjectKey} (h : o.IsPlain) (h' : o'.IsPlain)
    (he : o.retryKey = o'.retryKey) : o = o' := by
  have hchars := congrArg String.toList he
  rw [ObjectKey.retryKey, ObjectKey.retryKey, toList_retryKey, toList_retryKey] at hchars
  obtain ⟨hkind, hchars⟩ :=
    eq_of_append_slash_eq (Collection.slash_notMem_kind _) (Collection.slash_notMem_kind _) hchars
  obtain ⟨hns, hname⟩ := eq_of_append_slash_eq h h' hchars
  cases o
  cases o'
  rw [ObjectKey.mk.injEq]
  exact ⟨Collection.kind_injective (String.toList_injective hkind), String.toList_injective hns,
    String.toList_injective hname⟩

/-- Every attempt is followed up, every object by itself: its delays are those of a schedule of
its own, start with the initial delay and keep the limit, and the table counts the objects whose
latest attempt has failed. Objects of plain namespaces never share a key. -/
theorem retries_isolated (grow : Duration → Duration) (initial limit : Duration)
    (history : List Attempt) :
    (∃ followUps t,
      followUps? (fun d => some (grow d)) history (.empty initial limit) = some (followUps, t) ∧
      followUps.length = history.length ∧
      Isolated Attempt.key grow initial limit history followUps t ∧
      ((∀ a ∈ history, a.object.IsPlain) →
        Isolated Attempt.object grow initial limit history followUps t)) ∧
    ∀ o o' : ObjectKey, o.IsPlain → o'.IsPlain → o ≠ o' → o.retryKey ≠ o'.retryKey := by
  refine ⟨?_, fun o o' h h' hne he => hne (ObjectKey.eq_of_retryKey_eq h h' he)⟩
  obtain ⟨followUps, t, hrun⟩ := exists_followUps grow history (.empty initial limit)
  have hkeys : Isolated (fun a => a.object.retryKey) grow initial limit history followUps t :=
    isolated_keys hrun
  refine ⟨followUps, t, hrun, length_of_followUps hrun, hkeys, fun hplain => ?_⟩
  exact hkeys.of_comp fun a ha b hb => ObjectKey.eq_of_retryKey_eq (hplain a ha) (hplain b hb)

namespace MorningRetries

-- the feed fails twice, and the query of the same name recovers in between
def bbc : ObjectKey := ⟨.feeds, "news", "bbc"⟩

def query : ObjectKey := ⟨.hotNews, "news", "bbc"⟩

def fails (o : ObjectKey) : Attempt := ⟨o, .zero, .error (.ofCause (.query .noFeedsResolved))⟩

def history : List Attempt :=
  [fails bbc, fails query, ⟨query, .zero, .ok .awaitChange⟩, fails bbc, fails query]

def double (d : Duration) : Duration := ⟨2 * d.nanos⟩

end MorningRetries

open MorningRetries in
theorem retries_isolated_morning :
    ∃ followUps t,
      followUps? (fun d => some (double d)) history (.empty (.ofSeconds 1) (.ofSeconds 60)) =
        some (followUps, t) ∧
      Isolated Attempt.object double (.ofSeconds 1) (.ofSeconds 60) history followUps t ∧
      retriesOf Attempt.object bbc history followUps =
        [.requeue (.ofSeconds 1), .requeue (.ofSeconds 2)] ∧
      retriesOf Attempt.object query history followUps =
        [.requeue (.ofSeconds 1), .requeue (.ofSeconds 1)] ∧
      t.tracked = 2 ∧ bbc.retryKey ≠ query.retryKey := by
  obtain ⟨⟨followUps, t, hrun, -, -, hobjects⟩, hkeys⟩ :=
    retries_isolated double (.ofSeconds 1) (.ofSeconds 60) history
  have hisolated := hobjects (by decide)
  refine ⟨followUps, t, hrun, hisolated, ?_, ?_, ?_, ?_⟩
  · rw [hisolated.delays]
    decide
  · rw [hisolated.delays]
    decide
  · rw [hisolated.tracked]
    decide
  · exact hkeys bbc query (by decide) (by decide) (by decide)

end Newsdesk
