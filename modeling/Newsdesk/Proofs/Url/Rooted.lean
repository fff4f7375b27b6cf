import Newsdesk.Url.Reader

/-!
# URLs that others can be resolved against

A URL has no root if its text has a scheme that is not special and no slash behind it
(`RootlessText`), and only then (`isRootless_of_parse`). A name can be resolved against every other
URL and against none of these (`exists_join_iff`).
-/

namespace Newsdesk

namespace UrlPath

theorem isRootless_asFolder (path : UrlPath) : path.asFolder.isRootless = path.isRootless := by
  cases path with
  | segments xs =>
    simp only [asFolder]
    split <;> rfl
  | rootless text =>
    simp only [asFolder]
    split
    · rfl
    · split <;> rfl

end UrlPath

namespace Url

variable {base url : Url} {scheme : String} {parts : Parts} {cs : List Char} {text : String}

/-! ## Reading -/

theorem isRootless_of_afterSlashes (h : afterSlashes scheme parts cs = .ok url) :
    url.path.isRootless = false := by
  unfold afterSlashes at h
  dsimp only at h
  cases hread : readAuthority scheme _ (cs.takeWhile fun c => !isSlash (schemeKind scheme) c) with
  | error e =>
    rw [hread] at h
    cases h
  | ok authority =>
    rw [hread] at h
    cases h
    rfl

theorem isRootless_of_withHost (h : fileUrl.withHost parts cs = .ok url) :
    url.path.isRootless = false := by
  unfold fileUrl.withHost at h
  dsimp only at h
  split at h
  · cases h
    rfl
  · cases hhost : readFileHost (cs.takeWhile fun c => !isSlash .file c) with
    | error e =>
      rw [hhost] at h
      cases h
    | ok host =>
      rw [hhost] at h
      cases h
      rfl

theorem isRootless_fromRoot (base : Option Url) (parts : Parts) (cs : List Char) :
    (fileUrl.fromRoot base parts cs).path.isRootless = false := by
  unfold fileUrl.fromRoot
  split
  · rfl
  · split <;> rfl

theorem isRootless_fromFolder (base : Option Url) (parts : Parts) (cs : List Char) :
    (fileUrl.fromFolder base parts cs).path.isRootless = false := by
  unfold fileUrl.fromFolder
  split
  · split <;> rfl
  · rfl

theorem isRootless_of_fileUrl (h : fileUrl none parts cs = .ok url) :
    url.path.isRootless = false := by
  unfold fileUrl at h
  split at h
  · split at h
    · exact isRootless_of_withHost h
    · split at h <;> cases h
      · exact isRootless_fromRoot ..
      · exact isRootless_fromFolder ..
  · cases h
    split
    · exact isRootless_fromRoot ..
    · exact isRootless_fromFolder ..
  · cases h
    exact isRootless_fromFolder ..

theorem isRootless_of_plainUrl (h : plainUrl scheme parts cs = .ok url) :
    url.path.isRootless = true ↔ cs.head? ≠ some '/' := by
  unfold plainUrl at h
  split at h
  · simp [isRootless_of_afterSlashes h]
  · cases h
    simp [simple, UrlPath.isRootless]
  · rename_i hdouble hsingle
    cases h
    refine iff_of_true rfl fun hhead => ?_
    obtain ⟨rest, rfl⟩ := List.head?_eq_some_iff.1 hhead
    exact hsingle rest rfl

/-- A text with a scheme that is not special and no slash behind it. -/
def RootlessText (text : String) : Prop :=
  ∃ scheme rest, readScheme (Parts.ofList text.toList).body = some (scheme, rest) ∧
    schemeKind (String.ofList scheme) = .plain ∧ rest.head? ≠ some '/'

/-- Of the URLs that can be read on their own, those have no root whose text says so. -/
theorem isRootless_of_parse (h : parse text = .ok url) :
    url.path.isRootless = true ↔ RootlessText text := by
  unfold parse read at h
  unfold RootlessText
  dsimp only at h
  cases hscheme : readScheme (Parts.ofList text.toList).body with
  | none =>
    rw [hscheme] at h
    cases h
  | some split =>
    obtain ⟨scheme, rest⟩ := split
    rw [hscheme] at h
    dsimp only at h
    have hshape : (∃ scheme' rest', some (scheme, rest) = some (scheme', rest') ∧
        schemeKind (String.ofList scheme') = .plain ∧ rest'.head? ≠ some '/') ↔
        schemeKind (String.ofList scheme) = .plain ∧ rest.head? ≠ some '/' := by
      constructor
      · rintro ⟨_, _, ⟨⟩, h⟩
        exact h
      · exact fun h => ⟨scheme, rest, rfl, h⟩
    rw [hshape]
    cases hkind : schemeKind (String.ofList scheme) with
    | file =>
      rw [hkind] at h
      simp [isRootless_of_fileUrl h]
    | special =>
      rw [hkind] at h
      simp [isRootless_of_afterSlashes h]
    | plain =>
      rw [hkind] at h
      simpa using isRootless_of_plainUrl h

/-! ## Resolving -/

/-- A text that is resolved as the name of a file: it has no scheme, no query and no fragment, and
does not start with a slash. -/
structure IsName (text : String) : Prop where
  noQuery : (Parts.ofList text.toList).query = none
  noFragment : (Parts.ofList text.toList).fragment = none
  noScheme : readScheme (Parts.ofList text.toList).body = none
  noSlash : ∃ c rest, (Parts.ofList text.toList).body = c :: rest ∧ c ≠ '/' ∧ c ≠ '\\'

/-- No name can be resolved against a URL without a root. -/
theorem join_of_isRootless (hname : IsName text) (hbase : base.path.isRootless = true) :
    base.join text = .error .relativeToRootless := by
  obtain ⟨c, rest, hbody, -, -⟩ := hname.noSlash
  unfold join read
  simp only [hname.noScheme, hbase, hname.noFragment]
  simp

/-- A name is resolved against a URL with a root by its path. -/
theorem join_of_rooted (hname : IsName text) (hbase : base.path.isRootless = false) :
    base.join text =
      let parts := Parts.ofList text.toList
      if base.scheme = "file" then fileUrl (some base) parts parts.body
      else relativeTo base parts parts.body := by
  unfold join read
  simp only [hname.noScheme, hbase]
  rfl

theorem exists_join (hname : IsName text) (hbase : base.path.isRootless = false) :
    ∃ url, base.join text = .ok url := by
  obtain ⟨c, rest, hbody, hslash, hback⟩ := hname.noSlash
  rw [join_of_rooted hname hbase]
  dsimp only
  rw [hbody]
  split
  · have hno : isSlash .file c = false := by simp [isSlash, hslash, hback]
    unfold fileUrl
    cases rest with
    | nil => exact ⟨_, rfl⟩
    | cons d rest => simp [hno]
  · unfold relativeTo
    simp [hslash, hback]

/-- A name can be resolved against a URL exactly if that has a root. -/
theorem exists_join_iff (hname : IsName text) :
    (∃ url, base.join text = .ok url) ↔ base.path.isRootless = false := by
  constructor
  · rintro ⟨url, hjoin⟩
    cases hbase : base.path.isRootless with
    | false => rfl
    | true =>
      rw [join_of_isRootless hname hbase] at hjoin
      cases hjoin
  · exact exists_join hname

end Url

end Newsdesk
