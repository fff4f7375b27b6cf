import Newsdesk.Aggregator
import Newsdesk.Proofs.Json.Forms
import Newsdesk.Proofs.Resource.Reading

/-!
# Forms of the resources

Each type lists its fields in the order of their declaration, with what may stand for them. A
value of the type is read from every form, at whatever depth a form differs from the written one,
and what was read in any form is read again from what is written for it (`Roundtrips`).
-/

namespace Newsdesk

open Json

/-! ## Encodings -/

/-- What is read is what was written, for values that fit: `fields` are the fields of a value in
the order of their declaration. -/
structure Roundtrips {α : Type} (fits : α → Prop) (fields : α → List FieldForm) (toJson : α → Json)
    (decode : Decoder α) : Prop where
  /-- What is written reads back. -/
  written : ∀ {x}, fits x → decode (toJson x) = some x
  /-- What is written is a form of the value, -/
  form : ∀ {x}, fits x → RecordForm (fields x) (toJson x)
  /-- so is an object to which unknown fields are added, -/
  extended : ∀ {x before after name v}, RecordForm (fields x) (.obj (before ++ after)) →
    name ∉ (fields x).map FieldForm.name →
    RecordForm (fields x) (.obj (before ++ (name, v) :: after))
  /-- an object in which a part is given in another form, -/
  replaced : ∀ {x before after f v w}, f ∈ fields x →
    RecordForm (fields x) (.obj (before ++ (f.name, v) :: after)) → f.stands w →
    RecordForm (fields x) (.obj (before ++ (f.name, w) :: after))
  /-- and an array of all fields; -/
  listed : ∀ {x items}, List.Forall₂ FieldForm.stands (fields x) items →
    RecordForm (fields x) (.arr items)
  /-- the value is read from each of them. -/
  read : ∀ {x v}, fits x → RecordForm (fields x) v → decode v = some x
  /-- What is read, from whatever value, can be written and reads back. -/
  normal : ∀ {x v}, decode v = some x → fits x ∧ decode (toJson x) = some x

theorem Roundtrips.of_forms {α : Type} {fits : α → Prop} {fields : α → List FieldForm}
    {toJson : α → Json} {decode : Decoder α}
    (hnames : ∀ x, ((fields x).map FieldForm.name).Nodup)
    (hform : ∀ x, RecordForm (fields x) (toJson x))
    (hread : ∀ {x v}, fits x → RecordForm (fields x) v → decode v = some x)
    (hfits : ∀ {x v}, decode v = some x → fits x) : Roundtrips fits fields toJson decode where
  written hx := hread hx (hform _)
  form _ := hform _
  extended h hname := h.insert hname
  replaced hf h hw := h.replace (hnames _) hf hw
  listed h := h
  read := hread
  normal h := ⟨hfits h, hread (hfits h) (hform _)⟩

def IsInt32 (n : Int) : Prop := -0x80000000 ≤ n ∧ n ≤ 0x7FFFFFFF

instance (n : Int) : Decidable (IsInt32 n) :=
  inferInstanceAs (Decidable (-0x80000000 ≤ n ∧ n ≤ 0x7FFFFFFF))

theorem decodeInt32_of_eq {n : Int} (h : IsInt32 n) {v : Json} (hv : v = ofInt n) :
    decodeInt32 v = some n := hv ▸ decodeInt32_ofInt h

theorem decodeString_of_eq {s : String} {v : Json} (hv : v = .str s) : decodeString v = some s :=
  hv ▸ rfl

theorem decodeStrings_of_eq {xs : List String} {v : Json} (hv : v = ofStrings xs) :
    decodeStrings v = some xs := hv ▸ decodeStrings_ofStrings xs

/-! ## Conditions -/

/-- The forms of the kind of a condition: its name, or an object that maps the name to null. -/
def ConditionKind.Form (k : ConditionKind) (v : Json) : Prop :=
  v = .str k.name ∨ v = .obj [(k.name, .null)]

theorem ConditionKind.decode_of_form {k : ConditionKind} {v : Json} (h : k.Form v) :
    decode v = some k := by
  rcases h with rfl | rfl <;> exact ofName?_name k

namespace Condition

def fields (c : Condition) : List FieldForm := [
  .required "type" c.kind.Form,
  .required "success" (· = .bool c.success),
  .defaulted "reason" (· = .str c.reason) (c.reason = ""),
  .defaulted "message" (· = .str c.message) (c.message = ""),
  .defaulted "lastUpdatedName" (· = .str c.lastUpdatedName) (c.lastUpdatedName = ""),
  .defaulted "lastUpdateTime" (· = .str c.lastUpdateTime) (c.lastUpdateTime = "")]

theorem form_toJson (c : Condition) : RecordForm c.fields c.toJson :=
  recordForm_ofFields (by
    simp [fields, FieldForm.required, FieldForm.defaulted, List.lookup_cons, ConditionKind.Form])

theorem takes_reader (c : Condition) : Takes c.fields reader c :=
  .required (fun _ => ConditionKind.decode_of_form) id <|
  .required (fun _ hv => hv ▸ rfl) id <|
  .defaulted (fun _ => decodeString_of_eq) id <|
  .defaulted (fun _ => decodeString_of_eq) id <|
  .defaulted (fun _ => decodeString_of_eq) id <|
  .defaulted (fun _ => decodeString_of_eq) id <|
  takes_pure c

theorem decode_of_form {c : Condition} {v : Json} (h : RecordForm c.fields v) :
    decode v = some c := decodeRecord_of_form c.takes_reader h

def ListOf : List Condition → Json → Prop := ListForm fun c => RecordForm c.fields

theorem listOf_toJson (cs : List Condition) : ListOf cs (.arr (cs.map toJson)) :=
  listForm_map form_toJson cs

theorem decodeList_of_form {cs : List Condition} {v : Json} (h : ListOf cs v) :
    decodeList decode v = some cs := Json.decodeList_of_form h decode_of_form

end Condition

/-! ## Feeds -/

namespace FeedSpec

def fields (s : FeedSpec) : List FieldForm := [
  .required "name" (· = .str s.name),
  .required "url" (· = .str s.url)]

theorem form_toJson (s : FeedSpec) : RecordForm s.fields s.toJson :=
  recordForm_ofFields (by simp [fields, FieldForm.required, List.lookup_cons])

theorem decode_of_form {s : FeedSpec} {v : Json} (h : RecordForm s.fields v) :
    decode v = some s := by
  refine decodeRecord_of_form (?_ : Takes s.fields _ s) h
  exact .required (fun _ => decodeString_of_eq) id <|
    .required (fun _ => decodeString_of_eq) id <|
    takes_pure s

end FeedSpec

namespace FeedStatus

def fields (s : FeedStatus) : List FieldForm := [
  .defaulted "conditions" (Condition.ListOf s.conditions) (s.conditions = [])]

theorem form_toJson (s : FeedStatus) : RecordForm s.fields s.toJson :=
  recordForm_ofFields (by simp [fields, FieldForm.defaulted, Condition.listOf_toJson])

theorem decode_of_form {s : FeedStatus} {v : Json} (h : RecordForm s.fields v) :
    decode v = some s := by
  refine decodeRecord_of_form (?_ : Takes s.fields _ s) h
  exact .defaulted (fun _ => Condition.decodeList_of_form) id <| takes_pure s

end FeedStatus

/-! ## Hot news -/

namespace SummaryConfig

def fields (s : SummaryConfig) : List FieldForm := [
  .defaulted "titlesCount" (· = ofInt s.titlesCount) (s.titlesCount = 0)]

theorem form_toJson (s : SummaryConfig) : RecordForm s.fields s.toJson :=
  recordForm_ofFields (by simp [fields, FieldForm.defaulted])

theorem decode_of_form {s : SummaryConfig} {v : Json} (hs : IsInt32 s.titlesCount)
    (h : RecordForm s.fields v) : decode v = some s := by
  refine decodeRecord_of_form (?_ : Takes s.fields _ s) h
  exact .defaulted (fun _ => decodeInt32_of_eq hs) id <| takes_pure s

end SummaryConfig

namespace HotNewsSpec

def fields (s : HotNewsSpec) : List FieldForm := [
  .required "keywords" (· = ofStrings s.keywords),
  .nullableText "dateStart" s.dateStart,
  .nullableText "dateEnd" s.dateEnd,
  .defaulted "feedsName" (· = ofStrings s.feedsName) (s.feedsName = []),
  .defaulted "feedGroups" (· = ofStrings s.feedGroups) (s.feedGroups = []),
  .defaulted "summaryConfig" (RecordForm s.summaryConfig.fields) (s.summaryConfig = ⟨0⟩)]

theorem elim_nonemptyStrings (xs : List String) :
    (nonemptyStrings xs).elim (xs = []) (· = ofStrings xs) := by
  unfold nonemptyStrings
  split
  · assumption
  · rfl

theorem form_toJson (s : HotNewsSpec) : RecordForm s.fields s.toJson := by
  refine recordForm_ofOptionalFields (by simp) ?_
  obtain ⟨keywords, dateStart, dateEnd, feedsName, feedGroups, summaryConfig⟩ := s
  cases dateStart <;> cases dateEnd <;>
    simp [fields, FieldForm.required, FieldForm.defaulted, FieldForm.nullableText,
      List.lookup_cons, elim_nonemptyStrings, SummaryConfig.form_toJson]

theorem decode_of_form {s : HotNewsSpec} {v : Json} (hs : IsInt32 s.summaryConfig.titlesCount)
    (h : RecordForm s.fields v) : decode v = some s := by
  refine decodeRecord_of_form (?_ : Takes s.fields _ s) h
  exact .required (fun _ => decodeStrings_of_eq) id <|
    .nullableText <|
    .nullableText <|
    .defaulted (fun _ => decodeStrings_of_eq) id <|
    .defaulted (fun _ => decodeStrings_of_eq) id <|
    .defaulted (fun _ => SummaryConfig.decode_of_form hs) id <|
    takes_pure s

end HotNewsSpec

namespace HotNewsStatus

def fields (s : HotNewsStatus) : List FieldForm := [
  .defaulted "articlesCount" (· = ofInt s.articlesCount) (s.articlesCount = 0),
  .defaulted "newsLink" (· = .str s.newsLink) (s.newsLink = ""),
  .defaulted "articlesTitles" (· = ofStrings s.articlesTitles) (s.articlesTitles = []),
  .defaulted "conditions" (Condition.ListOf s.conditions) (s.conditions = [])]

theorem form_toJson (s : HotNewsStatus) : RecordForm s.fields s.toJson :=
  recordForm_ofFields (by
    simp [fields, FieldForm.defaulted, List.lookup_cons, Condition.listOf_toJson])

theorem decode_of_form {s : HotNewsStatus} {v : Json} (hs : IsInt32 s.articlesCount)
    (h : RecordForm s.fields v) : decode v = some s := by
  refine decodeRecord_of_form (?_ : Takes s.fields _ s) h
  exact .defaulted (fun _ => decodeInt32_of_eq hs) id <|
    .defaulted (fun _ => decodeString_of_eq) id <|
    .defaulted (fun _ => decodeStrings_of_eq) id <|
    .defaulted (fun _ => Condition.decodeList_of_form) id <|
    takes_pure s

end HotNewsStatus

/-! ## Articles -/

namespace Article

def fields (a : Article) : List FieldForm := [
  .defaulted "title" (· = .str a.title) (a.title = ""),
  .defaulted "description" (· = .str a.description) (a.description = ""),
  .defaulted "url" (· = .str a.url) (a.url = ""),
  .defaulted "publishedAt" (· = .str a.publishedAt) (a.publishedAt = ""),
  .defaulted "sourceName" (· = .str a.sourceName) (a.sourceName = "")]

theorem form_toJson (a : Article) : RecordForm a.fields a.toJson :=
  recordForm_ofFields (by simp [fields, FieldForm.defaulted, List.lookup_cons])

theorem decode_of_form {a : Article} {v : Json} (h : RecordForm a.fields v) :
    decode v = some a := by
  refine decodeRecord_of_form (?_ : Takes a.fields _ a) h
  exact .defaulted (fun _ => decodeString_of_eq) id <|
    .defaulted (fun _ => decodeString_of_eq) id <|
    .defaulted (fun _ => decodeString_of_eq) id <|
    .defaulted (fun _ => decodeString_of_eq) id <|
    .defaulted (fun _ => decodeString_of_eq) id <|
    takes_pure a

end Article

/-! ## All resources -/

/-- Every resource is read from every form of it, and written forms are normal. -/
theorem resources_read_back :
    Roundtrips (fun _ => True) FeedSpec.fields FeedSpec.toJson FeedSpec.decode ∧
    Roundtrips (fun _ => True) FeedStatus.fields FeedStatus.toJson FeedStatus.decode ∧
    Roundtrips (fun s => IsInt32 s.titlesCount) SummaryConfig.fields SummaryConfig.toJson
      SummaryConfig.decode ∧
    Roundtrips (fun s => IsInt32 s.summaryConfig.titlesCount) HotNewsSpec.fields
      HotNewsSpec.toJson HotNewsSpec.decode ∧
    Roundtrips (fun s => IsInt32 s.articlesCount) HotNewsStatus.fields HotNewsStatus.toJson
      HotNewsStatus.decode ∧
    Roundtrips (fun _ => True) Condition.fields Condition.toJson Condition.decode ∧
    Roundtrips (fun _ => True) Article.fields Article.toJson Article.decode := by
  refine ⟨?_, ?_, ?_, ?_, ?_, ?_, ?_⟩
  · exact .of_forms (fun _ => by simp [FeedSpec.fields, FieldForm.required]) FeedSpec.form_toJson
      (fun _ => FeedSpec.decode_of_form) fun _ => trivial
  · exact .of_forms (fun _ => by simp [FeedStatus.fields]) FeedStatus.form_toJson
      (fun _ => FeedStatus.decode_of_form) fun _ => trivial
  · exact .of_forms (fun _ => by simp [SummaryConfig.fields]) SummaryConfig.form_toJson
      SummaryConfig.decode_of_form SummaryConfig.range_of_decode
  · exact .of_forms (fun _ => by
        simp [HotNewsSpec.fields, FieldForm.required, FieldForm.nullableText, FieldForm.defaulted])
      HotNewsSpec.form_toJson HotNewsSpec.decode_of_form HotNewsSpec.range_of_decode
  · exact .of_forms (fun _ => by simp [HotNewsStatus.fields, FieldForm.defaulted])
      HotNewsStatus.form_toJson HotNewsStatus.decode_of_form HotNewsStatus.inRange_of_decode
  · exact .of_forms (fun _ => by simp [Condition.fields, FieldForm.required, FieldForm.defaulted])
      Condition.form_toJson (fun _ => Condition.decode_of_form) fun _ => trivial
  · exact .of_forms (fun _ => by simp [Article.fields, FieldForm.defaulted]) Article.form_toJson
      (fun _ => Article.decode_of_form) fun _ => trivial

namespace ListedQuery

def spec : HotNewsSpec := ⟨["rust"], none, none, [], ["tech"], ⟨5⟩⟩

/-- The query as an array; its summary settings are an object with a field of somebody else. -/
def value : Json :=
  .arr [ofStrings ["rust"], .null, .null, ofStrings [], ofStrings ["tech"],
    .obj [("language", .str "en"), ("titlesCount", ofInt 5)]]

theorem recordForm_value : RecordForm spec.fields value := by
  refine .cons rfl <| .cons rfl <| .cons rfl <| .cons rfl <| .cons rfl <| .cons ?_ .nil
  have hwritten : RecordForm spec.summaryConfig.fields (.obj ([] ++ [("titlesCount", ofInt 5)])) :=
    spec.summaryConfig.form_toJson
  exact hwritten.insert (by decide)

end ListedQuery

theorem resources_read_back_listedQuery :
    HotNewsSpec.decode ListedQuery.value = some ListedQuery.spec ∧
      HotNewsSpec.decode ListedQuery.spec.toJson = some ListedQuery.spec := by
  obtain ⟨-, -, -, hquery, -, -, -⟩ := resources_read_back
  have hread := hquery.read (by decide) ListedQuery.recordForm_value
  exact ⟨hread, (hquery.normal hread).2⟩

end Newsdesk
