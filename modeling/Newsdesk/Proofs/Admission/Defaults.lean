import Newsdesk.Admission.Webhook
import Newsdesk.Proofs.Json.Difference
import Newsdesk.Proofs.Json.Merging
import Newsdesk.Proofs.Json.Pointer
import Newsdesk.Proofs.Program.Outcome
import Newsdesk.Proofs.Resource.Reading

/-!
# Defaults of queries

The patch that a query gets for its defaults does exactly what it is for: every field of the
defaulted query is written, and nothing else changes (`Overlaid`). In whatever form the query was
given, what is there then reads as the defaulted query, and this has no more defaults to get.
-/

namespace Newsdesk

open Json

/-! ## Queries laid over a specification -/

/-- One object is another with the fields of a query laid over its specification. Fields that the
query does not write are kept. -/
structure Overlaid (spec : HotNewsSpec) (o o' : Json) : Prop where
  inOrder : InOrder o'
  object : ∃ fields, o' = .obj fields
  others : ∀ name, name ≠ "spec" → o'.field? name = o.field? name
  specObject : ∃ fields, o'.field? "spec" = some (.obj fields)
  written : ∀ name v, spec.toJson.field? name = some v → (o'.field "spec").field? name = some v
  kept : ∀ name, spec.toJson.field? name = none →
    (o'.field "spec").field? name = (o.field "spec").field? name

theorem HotNewsSpec.inOrder_toJson (spec : HotNewsSpec) : InOrder spec.toJson := by
  have hnonempty (xs : List String) (v : Json) (h : nonemptyStrings xs = some v) : InOrder v := by
    obtain ⟨-, ⟨⟩⟩ := Option.ite_none_left_eq_some.1 h
    exact inOrder_ofStrings xs
  have htext (s : Option String) (v : Json) (h : s.map .str = some v) : InOrder v := by
    obtain ⟨t, -, rfl⟩ := Option.map_eq_some_iff.1 h
    exact .str t
  have hsummary : InOrder spec.summaryConfig.toJson := inOrder_ofFields (by simp [ofInt])
  unfold toJson
  refine inOrder_ofOptionalFields ?_
  simp only [List.mem_cons, List.not_mem_nil, or_false, forall_eq_or_imp, forall_eq,
    Option.some.injEq]
  exact ⟨htext _, htext _, hnonempty _, hnonempty _, fun v h => h ▸ inOrder_ofStrings _,
    fun v h => h ▸ hsummary⟩

/-- The specification after a query was laid over it. -/
def laidOver (old : Json) (new : JsonFields) : JsonFields :=
  new.foldl (fun acc f => setField f.1 f.2 acc) (fieldsOf old)

theorem lookup_laidOver (old : Json) {new : JsonFields} (hn : Ascending new) (name : String) :
    (laidOver old new).lookup name = (new.lookup name).or (old.field? name) := by
  rw [laidOver, lookup_foldl_setField, hn.lookup_reverse, lookup_fieldsOf]

theorem inOrder_laidOver {old : Json} (ho : InOrder old) {new : JsonFields}
    (hn : InOrder (.obj new)) : InOrder (.obj (laidOver old new)) := by
  refine inOrder_foldl_setField ?_ fun f hf => hn.mem hf
  cases old with
  | obj fields => exact ho
  | _ => exact inOrder_empty

theorem overlaySpec_obj (fields : JsonFields) {spec : HotNewsSpec} {new : JsonFields}
    (hnew : spec.toJson = .obj new) (hn : Ascending new) :
    overlaySpec (.obj fields) spec =
      .obj (setField "spec" (.obj (laidOver ((Json.obj fields).field "spec") new)) fields) := by
  have hself : new.foldl (fun acc f => setField f.1 f.2 acc) [] = new := hn.sortFields_eq
  unfold overlaySpec laidOver field
  simp only [hnew, field?]
  cases fields.lookup "spec" with
  | none => simp [fieldsOf, hself]
  | some old => cases old <;> simp [fieldsOf, hself]

theorem overlaid_overlaySpec {o : Json} (ho : InOrder o) (hobj : ∃ fields, o = .obj fields)
    (spec : HotNewsSpec) : Overlaid spec o (overlaySpec o spec) := by
  obtain ⟨fields, rfl⟩ := hobj
  obtain ⟨new, hnew⟩ : ∃ new, spec.toJson = .obj new := ⟨_, rfl⟩
  have hn : InOrder (.obj new) := hnew ▸ spec.inOrder_toJson
  have hlookup (name : String) := lookup_laidOver ((Json.obj fields).field "spec") hn.ascending name
  have hspec : (overlaySpec (.obj fields) spec).field? "spec" =
      some (.obj (laidOver ((Json.obj fields).field "spec") new)) := by
    rw [overlaySpec_obj fields hnew hn.ascending, field?, lookup_setField_self]
  have hfield (name : String) : ((overlaySpec (.obj fields) spec).field "spec").field? name =
      (spec.toJson.field? name).or (((Json.obj fields).field "spec").field? name) := by
    rw [Json.field, hspec, hnew]
    exact hlookup name
  refine ⟨?_, ⟨_, overlaySpec_obj fields hnew hn.ascending⟩, fun name hne => ?_, ⟨_, hspec⟩,
    fun name v hv => ?_, fun name hnone => ?_⟩
  · rw [overlaySpec_obj fields hnew hn.ascending]
    exact ho.setField "spec" (inOrder_laidOver (ho.field "spec") hn)
  · rw [overlaySpec_obj fields hnew hn.ascending]
    exact lookup_setField_ne hne _ _
  · rw [hfield, hv, Option.some_or]
  · rw [hfield, hnone, Option.none_or]

/-- A query that was laid over an object is there already. -/
theorem Overlaid.overlaySpec_eq {spec : HotNewsSpec} {o o' : Json} (h : Overlaid spec o o') :
    overlaySpec o' spec = o' := by
  obtain ⟨fields, rfl⟩ := h.object
  obtain ⟨laid, hlaid⟩ := h.specObject
  obtain ⟨new, hnew⟩ : ∃ new, spec.toJson = .obj new := ⟨_, rfl⟩
  have hn : InOrder (.obj new) := hnew ▸ spec.inOrder_toJson
  have hspec : (Json.obj fields).field "spec" = .obj laid := by rw [Json.field, hlaid]; rfl
  have hordered : InOrder (.obj laid) := hspec ▸ h.inOrder.field "spec"
  have hwritten := h.written
  rw [hspec, hnew] at hwritten
  have hsame : laidOver (.obj laid) new = laid := by
    refine (inOrder_laidOver hordered hn).ascending.ext hordered.ascending fun name => ?_
    rw [lookup_laidOver _ hn.ascending]
    cases hl : new.lookup name with
    | none => rfl
    | some v => exact (hwritten name v hl).symm
  rw [overlaySpec_obj fields hnew hn.ascending, hspec, hsame,
    h.inOrder.ascending.setField_eq_self hlaid]

/-! ## Reading what was laid over -/

namespace HotNewsSpec

/-- What a query leaves out is not given by a value either: it is missing there, or null, or
empty. -/
structure Silent (spec : HotNewsSpec) (x : Json) : Prop where
  dateStart : spec.dateStart = none → nullable decodeString (x.field? "dateStart") = some none
  dateEnd : spec.dateEnd = none → nullable decodeString (x.field? "dateEnd") = some none
  feedsName : spec.feedsName = [] → defaulted decodeStrings [] (x.field? "feedsName") = some []
  feedGroups : spec.feedGroups = [] → defaulted decodeStrings [] (x.field? "feedGroups") = some []

theorem silent_of_decode {x : Json} (ho : InOrder x) {spec : HotNewsSpec}
    (h : decode x = some spec) : spec.Silent x := by
  cases x with
  | obj fields =>
    have hr := (decode_obj_eq_some_iff ho.ascending).1 h
    exact ⟨fun hs => hs ▸ hr.dateStart, fun hs => hs ▸ hr.dateEnd, fun hs => hs ▸ hr.feedsName,
      fun hs => hs ▸ hr.feedGroups⟩
  | _ => exact ⟨fun _ => rfl, fun _ => rfl, fun _ => rfl, fun _ => rfl⟩

theorem field?_toJson (spec : HotNewsSpec) (name : String) :
    spec.toJson.field? name =
      ([("dateEnd", spec.dateEnd.map .str), ("dateStart", spec.dateStart.map .str),
        ("feedGroups", nonemptyStrings spec.feedGroups),
        ("feedsName", nonemptyStrings spec.feedsName),
        ("keywords", some (ofStrings spec.keywords)),
        ("summaryConfig", some spec.summaryConfig.toJson)].lookup name).join :=
  lookup_optionalFields name (by simp)

/-- A text that may be missing, laid over a value that is silent about it. -/
theorem nullable_overlaid {found old written : Option Json} {s : Option String}
    (hw : written = s.map .str) (hwritten : ∀ v, written = some v → found = some v)
    (hkept : written = none → found = old) (hs : s = none → nullable decodeString old = some none) :
    nullable decodeString found = some s := by
  cases s with
  | none => rw [hkept hw, hs rfl]
  | some t => rw [hwritten _ hw]; rfl

theorem defaulted_overlaid {found old written : Option Json} {xs : List String}
    (hw : written = nonemptyStrings xs) (hwritten : ∀ v, written = some v → found = some v)
    (hkept : written = none → found = old)
    (hs : xs = [] → defaulted decodeStrings [] old = some []) :
    defaulted decodeStrings [] found = some xs := by
  by_cases hx : xs = []
  · rw [hkept (hw.trans (if_pos hx)), hs hx, hx]
  · rw [hwritten _ (hw.trans (if_neg hx)), defaulted_some, decodeStrings_ofStrings]

/-- A query that was laid over a value that is silent where it is reads back. -/
theorem decode_of_overlaid {spec : HotNewsSpec} {o o' : Json} (h : Overlaid spec o o')
    (hs : spec.Silent (o.field "spec"))
    (hr : -0x80000000 ≤ spec.summaryConfig.titlesCount ∧
      spec.summaryConfig.titlesCount ≤ 0x7FFFFFFF) :
    decode (o'.field "spec") = some spec := by
  obtain ⟨fields, hf⟩ := h.specObject
  have hspec : o'.field "spec" = .obj fields := by rw [Json.field, hf]; rfl
  have hordered := h.inOrder.field "spec"
  have hwritten := h.written
  have hkept := h.kept
  rw [hspec] at hordered hwritten hkept ⊢
  refine (decode_obj_eq_some_iff hordered.ascending).2 ⟨?_, ?_, ?_, ?_, ?_, ?_⟩
  · rw [show fields.lookup "keywords" = _ from hwritten _ _ (field?_toJson spec "keywords"),
      required_some, decodeStrings_ofStrings]
  · exact nullable_overlaid (field?_toJson spec "dateStart") (hwritten _) (hkept _) hs.dateStart
  · exact nullable_overlaid (field?_toJson spec "dateEnd") (hwritten _) (hkept _) hs.dateEnd
  · exact defaulted_overlaid (field?_toJson spec "feedsName") (hwritten _) (hkept _) hs.feedsName
  · exact defaulted_overlaid (field?_toJson spec "feedGroups") (hwritten _) (hkept _) hs.feedGroups
  · rw [show fields.lookup "summaryConfig" = _ from
      hwritten _ _ (field?_toJson spec "summaryConfig"), defaulted_some,
      SummaryConfig.decode_toJson hr]

end HotNewsSpec

/-! ## Defaults -/

section

variable (spec : HotNewsSpec) (feeds : List String)

theorem defaultSpec_summaryConfig : (defaultSpec spec feeds).spec.summaryConfig =
    if spec.summaryConfig.titlesCount = 0 then ⟨10⟩ else spec.summaryConfig := rfl

theorem defaultSpec_feedsName : (defaultSpec spec feeds).spec.feedsName =
    if spec.needsFeeds then feeds else spec.feedsName := rfl

theorem needsFeeds_iff : spec.needsFeeds = true ↔ spec.feedsName = [] ∧ spec.feedGroups = [] := by
  simp [HotNewsSpec.needsFeeds]

/-- A query with its defaults has no more to get. -/
theorem defaultSpec_defaultSpec :
    (defaultSpec (defaultSpec spec feeds).spec feeds).spec = (defaultSpec spec feeds).spec := by
  have hsummary : (defaultSpec spec feeds).spec.summaryConfig.titlesCount ≠ 0 := by
    rw [defaultSpec_summaryConfig]
    split
    · decide
    · assumption
  have hnames : (defaultSpec spec feeds).spec.needsFeeds = true →
      feeds = (defaultSpec spec feeds).spec.feedsName := by
    intro hneeds
    obtain ⟨hnone, hgroups⟩ := (needsFeeds_iff _).1 hneeds
    rw [hnone]
    rw [defaultSpec_feedsName] at hnone
    split at hnone
    · exact hnone
    · -- a query that does not need feeds says something about them, and still does
      rename_i hnot
      exact absurd ((needsFeeds_iff spec).2 ⟨hnone, hgroups⟩) hnot
  generalize (defaultSpec spec feeds).spec = d at hsummary hnames ⊢
  have hfeeds : (defaultSpec d feeds).spec.feedsName = d.feedsName := by
    rw [defaultSpec_feedsName]
    split
    · rename_i hneeds
      exact hnames hneeds
    · rfl
  have hconfig : (defaultSpec d feeds).spec.summaryConfig = d.summaryConfig := by
    rw [defaultSpec_summaryConfig, if_neg hsummary]
  calc (defaultSpec d feeds).spec
      = { d with
          feedsName := (defaultSpec d feeds).spec.feedsName
          summaryConfig := (defaultSpec d feeds).spec.summaryConfig } := rfl
    _ = d := by rw [hfeeds, hconfig]

/-- The feeds of the namespace count only for a query that says nothing about feeds. -/
theorem defaultSpec_congr {spec : HotNewsSpec} (h : spec.needsFeeds = false)
    (feeds feeds' : List String) :
    (defaultSpec spec feeds).spec = (defaultSpec spec feeds').spec := by
  simp [defaultSpec, h]

theorem range_defaultSpec (h : -0x80000000 ≤ spec.summaryConfig.titlesCount ∧
      spec.summaryConfig.titlesCount ≤ 0x7FFFFFFF) :
    -0x80000000 ≤ (defaultSpec spec feeds).spec.summaryConfig.titlesCount ∧
      (defaultSpec spec feeds).spec.summaryConfig.titlesCount ≤ 0x7FFFFFFF := by
  rw [defaultSpec_summaryConfig]
  split
  · decide
  · exact h

end

/-- The defaults are silent where the query was. -/
theorem HotNewsSpec.Silent.default {spec : HotNewsSpec} {x : Json} (h : spec.Silent x)
    (feeds : List String) : (defaultSpec spec feeds).spec.Silent x where
  dateStart := h.dateStart
  dateEnd := h.dateEnd
  feedGroups := h.feedGroups
  feedsName hnone := by
    rw [defaultSpec_feedsName] at hnone
    split at hnone
    · rename_i hneeds
      exact h.feedsName ((needsFeeds_iff spec).1 hneeds).1
    · exact h.feedsName hnone

theorem defaultsPatch_congr {o : Json} {spec : HotNewsSpec} (h : spec.needsFeeds = false)
    (feeds feeds' : List String) : defaultsPatch o spec feeds = defaultsPatch o spec feeds' := by
  unfold defaultsPatch
  rw [defaultSpec_congr h feeds feeds']

/-! ## The webhook -/

/-- Wherever the feeds of a namespace are found under some names, an object of this namespace gets
a patch. -/
def GetsPatch (feeds : List String) (o : Json) (patch : Patch) : Prop :=
  ∀ {σ : Type} {env : Environment σ} {s s' : σ} {ns : String} {found : List Feed}
    (r : AdmissionResponse), (searchFeeds ns).run env s = (.ok (.ok found), s') →
    trimmedNames found = feeds →
    ∃ r' s', (applyDefaults ns o r).run env s = (.ok r', s') ∧ r'.patch = patch

/-- The webhook gives the patch for the defaults. -/
theorem getsPatch_defaultsPatch {o : Json} {spec : HotNewsSpec} (feeds : List String)
    (h : HotNewsSpec.decode (o.field "spec") = some spec) :
    GetsPatch feeds o (defaultsPatch o spec feeds) := by
  intro σ env s s' ns found r hsearch hnames
  have hpatch (warnings : List String) (names : List String) :
      (({ r with patch := defaultsPatch o spec names } : AdmissionResponse).withWarnings
        warnings).patch = defaultsPatch o spec names := by
    unfold AdmissionResponse.withWarnings
    split <;> rfl
  unfold applyDefaults
  simp only [h]
  cases hneeds : spec.needsFeeds with
  | false =>
    have hrun : (defaultFeeds ns spec).run env s = (.ok (.ok []), s) := by
      unfold defaultFeeds
      rw [hneeds]
      exact Program.run_pure_eq_ok.2 ⟨rfl, rfl⟩
    exact ⟨_, _, Program.run_bind_eq_ok.2 ⟨_, _, hrun, Program.run_pure_eq_ok.2 ⟨rfl, rfl⟩⟩,
      (hpatch _ _).trans (defaultsPatch_congr hneeds [] feeds)⟩
  | true =>
    have hrun : (defaultFeeds ns spec).run env s = (.ok (.ok feeds), s') := by
      unfold defaultFeeds
      rw [hneeds]
      exact Program.run_bind_eq_ok.2 ⟨_, _, hsearch, Program.run_pure_eq_ok.2 ⟨by rw [hnames], rfl⟩⟩
    exact ⟨_, _, Program.run_bind_eq_ok.2 ⟨_, _, hrun, Program.run_pure_eq_ok.2 ⟨rfl, rfl⟩⟩,
      hpatch _ _⟩

/-- A patch turns one object into another, and so does what is written for it. -/
def Patch.Turns (patch : Patch) (o o' : Json) : Prop :=
  patch.apply o = some o' ∧ Patch.applyWritten patch.toJson o = some o'

theorem Patch.turns_diff {o o' : Json} (ho : InOrder o) (ho' : InOrder o') :
    (Patch.diff o o').Turns o o' :=
  ⟨apply_diff ho ho', applyWritten_toJson (apply_diff ho ho')⟩

theorem turns_specPatch {o : Json} (ho : InOrder o) (hobj : ∃ fields, o = .obj fields)
    (spec : HotNewsSpec) : (specPatch o spec).Turns o (overlaySpec o spec) :=
  Patch.turns_diff ho (overlaid_overlaySpec ho hobj spec).inOrder

/-- The patch for a query is empty exactly if the query is there already. -/
theorem specPatch_eq_nil_iff {o : Json} (ho : InOrder o) (hobj : ∃ fields, o = .obj fields)
    (spec : HotNewsSpec) : specPatch o spec = [] ↔ overlaySpec o spec = o :=
  (Patch.diff_eq_nil_iff ho (overlaid_overlaySpec ho hobj spec).inOrder).trans eq_comm

/-- The patch for a query writes this query and nothing else, and then there is nothing left to
write. When it was made for the defaults of the query that is there, the object reads as the
defaulted query afterwards, and the webhook has nothing more to give. -/
theorem defaults_are_exact {o : Json} (ho : InOrder o) (hobj : ∃ fields, o = .obj fields) :
    (∀ spec, ∃ o', (specPatch o spec).Turns o o' ∧ Overlaid spec o o' ∧ specPatch o' spec = []) ∧
      ∀ spec feeds, HotNewsSpec.decode (o.field "spec") = some spec →
        GetsPatch feeds o (defaultsPatch o spec feeds) ∧
        ∀ patch,
          patch = defaultsPatch o spec feeds ∨ patch = specPatch o (defaultSpec spec feeds).spec →
          ∃ o', patch.Turns o o' ∧
            HotNewsSpec.decode (o'.field "spec") = some (defaultSpec spec feeds).spec ∧
            defaultsPatch o' (defaultSpec spec feeds).spec feeds = [] ∧ GetsPatch feeds o' [] := by
  refine ⟨fun spec => ?_, fun spec feeds hd => ⟨getsPatch_defaultsPatch feeds hd,
    fun patch hp => ?_⟩⟩
  · have hlaid := overlaid_overlaySpec ho hobj spec
    exact ⟨_, turns_specPatch ho hobj spec, hlaid,
      (specPatch_eq_nil_iff hlaid.inOrder hlaid.object spec).2 hlaid.overlaySpec_eq⟩
  have hsame (o' : Json) : defaultsPatch o' (defaultSpec spec feeds).spec feeds = [] :=
    if_pos (defaultSpec_defaultSpec spec feeds)
  -- it is enough to find an object that reads as the defaulted query
  suffices h : ∃ o', patch.Turns o o' ∧
      HotNewsSpec.decode (o'.field "spec") = some (defaultSpec spec feeds).spec by
    obtain ⟨o', hturns, hd'⟩ := h
    exact ⟨o', hturns, hd', hsame o', hsame o' ▸ getsPatch_defaultsPatch feeds hd'⟩
  have hlaid : ∃ o', (specPatch o (defaultSpec spec feeds).spec).Turns o o' ∧
      HotNewsSpec.decode (o'.field "spec") = some (defaultSpec spec feeds).spec := by
    have hsilent := (HotNewsSpec.silent_of_decode (ho.field "spec") hd).default feeds
    have hrange := range_defaultSpec spec feeds (HotNewsSpec.range_of_decode hd)
    exact ⟨_, turns_specPatch ho hobj _,
      HotNewsSpec.decode_of_overlaid (overlaid_overlaySpec ho hobj _) hsilent hrange⟩
  rcases hp with rfl | rfl
  · by_cases hnothing : (defaultSpec spec feeds).spec = spec
    · have hpatch : defaultsPatch o spec feeds = [] := if_pos hnothing
      exact ⟨o, hpatch ▸ ⟨rfl, rfl⟩, hd.trans (congrArg some hnothing.symm)⟩
    · have hpatch : defaultsPatch o spec feeds = specPatch o (defaultSpec spec feeds).spec :=
        if_neg hnothing
      exact hpatch ▸ hlaid
  · exact hlaid

namespace SparseQuery

def object : Json := .obj [
  ("kind", .str "HotNews"),
  ("spec", .obj [
    ("dateStart", .null),
    ("editor/notes", .str "none"),
    ("keywords", ofStrings ["election"])])]

def query : HotNewsSpec := ⟨["election"], none, none, [], [], ⟨0⟩⟩

theorem inOrder_object : InOrder object := by
  have h : canonical object = object := by decide +kernel
  exact h ▸ inOrder_canonical _

theorem decode_object : HotNewsSpec.decode (object.field "spec") = some query := by decide +kernel

end SparseQuery

open SparseQuery

/-- A query with a null date and a field of its own gets its feeds and its number of titles. -/
theorem sparseQuery_defaulted : InOrder object ∧
    HotNewsSpec.decode (object.field "spec") = some query ∧
    ∃ o', (defaultsPatch object query ["bbc"]).Turns object o' ∧
      HotNewsSpec.decode (o'.field "spec") =
        some { query with feedsName := ["bbc"], summaryConfig := ⟨10⟩ } ∧
      GetsPatch ["bbc"] o' [] := by
  obtain ⟨-, hdefaults⟩ := defaults_are_exact inOrder_object ⟨_, rfl⟩
  obtain ⟨o', hturns, hd, -, hnone⟩ := (hdefaults query ["bbc"] decode_object).2 _ (.inl rfl)
  exact ⟨inOrder_object, decode_object, o', hturns, hd, hnone⟩

end Newsdesk
