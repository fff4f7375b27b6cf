import Newsdesk.Proofs.Url.Rooted
import Newsdesk.Proofs.Url.Segments

/-!
# Folders and the files in them

A URL with a special scheme that has been read has a path in its final form (`HasSegments`). It is
made a folder by giving it its own path with a slash behind it, and that text is read once more
(`withPathText`); what comes out is the path with one more, empty segment
(`asFolder_eq_withPathText`). A name that is resolved against a folder is the name of a file in it
(`HasSegments.join`).
-/

namespace Newsdesk.Url

open Text UrlPath

/-- The URL with another path, given as text. A question mark or a hash is a character of the path.
A path without a root cannot get one. -/
def withPathText (url : Url) (text : List Char) : Url :=
  let cs := text.filter fun c => c ≠ '\t' ∧ c ≠ '\n' ∧ c ≠ '\r'
  match url.path with
  | .segments _ => { url with path := .segments (pathAfterHost (schemeKind url.scheme) cs) }
  | .rootless _ =>
    let kept := match cs with
      | '/' :: rest => "%2F".toList ++ percentEncode inControlSet rest
      | _ => percentEncode inControlSet cs
    { url with path := .rootless (String.ofList kept) }

/-- The text of a path with a slash at its end. -/
def folderText (path : List Char) : List Char :=
  if path.getLast? = some '/' then path else path ++ ['/']

/-- A URL with a special scheme and a path in its final form. -/
structure HasSegments (url : Url) (segs : List String) : Prop where
  special : schemeKind url.scheme = .special
  path_eq : url.path = .segments segs
  ne_nil : segs ≠ []
  isSegment : ∀ s ∈ segs, IsSegment s

section

variable {url : Url} {scheme : String} {parts : Parts} {cs : List Char} {text : String}

/-! ## Reading -/

theorem of_afterSlashes (h : afterSlashes scheme parts cs = .ok url) : url.scheme = scheme ∧
    ∃ path, url.path = .segments (pathAfterHost (schemeKind scheme) path) := by
  unfold afterSlashes at h
  dsimp only at h
  cases hread : readAuthority scheme _ (cs.takeWhile fun c => !isSlash (schemeKind scheme) c) with
  | error e =>
    rw [hread] at h
    cases h
  | ok authority =>
    rw [hread] at h
    cases h
    exact ⟨rfl, _, rfl⟩

theorem scheme_of_plainUrl (h : plainUrl scheme parts cs = .ok url) : url.scheme = scheme := by
  unfold plainUrl at h
  split at h
  · exact (of_afterSlashes h).1
  · cases h
    rfl
  · cases h
    rfl

theorem scheme_of_withHost (h : fileUrl.withHost parts cs = .ok url) : url.scheme = "file" := by
  unfold fileUrl.withHost at h
  dsimp only at h
  split at h
  · cases h
    rfl
  · cases hhost : readFileHost (cs.takeWhile fun c => !isSlash .file c) with
    | error e =>
      rw [hhost] at h
      cases h
    | ok host =>
      rw [hhost] at h
      cases h
      rfl

theorem scheme_fromRoot (parts : Parts) (cs : List Char) :
    (fileUrl.fromRoot none parts cs).scheme = "file" := by
  unfold fileUrl.fromRoot
  split
  · rfl
  · split <;> rfl

theorem scheme_of_fileUrl (h : fileUrl none parts cs = .ok url) : url.scheme = "file" := by
  unfold fileUrl at h
  split at h
  · split at h
    · exact scheme_of_withHost h
    · split at h <;> cases h
      · exact scheme_fromRoot ..
      · rfl
  · cases h
    split
    · exact scheme_fromRoot ..
    · rfl
  · cases h
    rfl

/-- A URL with a special scheme that has been read has a path in its final form. -/
theorem exists_hasSegments (h : parse text = .ok url)
    (hspecial : schemeKind url.scheme = .special) : ∃ segs, url.HasSegments segs := by
  unfold parse read at h
  dsimp only at h
  split at h
  · rename_i scheme rest hscheme
    cases hkind : schemeKind (String.ofList scheme) with
    | file =>
      rw [hkind] at h
      rw [scheme_of_fileUrl h] at hspecial
      cases hspecial
    | special =>
      rw [hkind] at h
      obtain ⟨-, path, hpath⟩ := of_afterSlashes h
      rw [hkind] at hpath
      exact ⟨_, hspecial, hpath, pathAfterHost_ne_nil path, isSegment_pathAfterHost path⟩
    | plain =>
      rw [hkind] at h
      rw [scheme_of_plainUrl h, hkind] at hspecial
      cases hspecial
  · cases h

end

/-! ## Folders -/

section

variable {url : Url} {segs : List String}

/-- A path ends in a slash if its last segment is empty. -/
theorem getLast?_segmentsText (hne : segs ≠ []) (h : ∀ s ∈ segs, IsSegment s) :
    (segmentsText segs).getLast? = some '/' ↔ segs.getLast? = some "" := by
  obtain ⟨front, last, rfl⟩ := (List.eq_nil_or_concat' segs).resolve_left hne
  have htext : segmentsText (front ++ [last]) = segmentsText front ++ '/' :: last.toList := by
    simp [segmentsText]
  have hlast : IsSegment last := h last (List.mem_append_right _ List.mem_cons_self)
  rw [htext, List.getLast?_append_cons, List.getLast?_concat, Option.some_inj]
  cases hchars : last.toList with
  | nil => simpa using hchars
  | cons c rest =>
    refine iff_of_false (fun hslash => ?_) fun hempty => ?_
    · rw [List.getLast?_cons_cons] at hslash
      exact hlast.noSlash (hchars ▸ List.mem_of_getLast? hslash)
    · rw [hempty] at hchars
      cases hchars

namespace HasSegments

theorem toList_path (h : url.HasSegments segs) : url.path.toList = segmentsText segs := by
  rw [h.path_eq]
  rfl

/-- A folder is a path that ends in an empty segment. -/
theorem asFolder (h : url.HasSegments segs) :
    url.asFolder.HasSegments (if segs.getLast? = some "" then segs else segs ++ [""]) := by
  have hpath : url.asFolder.path =
      .segments (if segs.getLast? = some "" then segs else segs ++ [""]) := by
    rw [Url.asFolder, h.path_eq, UrlPath.asFolder]
    split <;> rfl
  refine ⟨h.special, hpath, ?_, ?_⟩
  · split
    · exact h.ne_nil
    · simp
  · intro s hs
    split at hs
    · exact h.isSegment s hs
    · obtain hs | hs := List.mem_append.1 hs
      · exact h.isSegment s hs
      · exact List.mem_singleton.1 hs ▸ isSegment_empty

theorem toList_asFolder (h : url.HasSegments segs) :
    url.asFolder.path.toList = folderText url.path.toList := by
  have hends := getLast?_segmentsText h.ne_nil h.isSegment
  rw [h.asFolder.toList_path, h.toList_path, folderText]
  by_cases hlast : segs.getLast? = some ""
  · rw [if_pos hlast, if_pos (hends.2 hlast)]
  · rw [if_neg hlast, if_neg fun hslash => hlast (hends.1 hslash)]
    simp [segmentsText]

/-- The path with a slash behind it, read once more, is the folder. -/
theorem asFolder_eq_withPathText (h : url.HasSegments segs) : url.asFolder =
    if url.path.toList.getLast? = some '/' then url
    else url.withPathText (url.path.toList ++ ['/']) := by
  have hends := getLast?_segmentsText h.ne_nil h.isSegment
  have hfolder := h.asFolder
  rw [h.toList_path]
  by_cases hlast : segs.getLast? = some ""
  · rw [if_pos (hends.2 hlast)]
    rw [if_pos hlast] at hfolder
    rw [Url.asFolder, h.path_eq, UrlPath.asFolder, if_pos hlast, ← h.path_eq]
  · rw [if_neg hlast] at hfolder
    have htext : segmentsText segs ++ ['/'] = segmentsText (segs ++ [""]) := by
      simp [segmentsText]
    -- controls are not dropped from the text, as it has none
    have hkept : (segmentsText (segs ++ [""])).filter
        (fun c => c ≠ '\t' ∧ c ≠ '\n' ∧ c ≠ '\r') = segmentsText (segs ++ [""]) := by
      refine List.filter_eq_self.2 fun c hc => ?_
      have hclean : inPathSet c = false := by
        obtain rfl | ⟨s, hs, hc⟩ := mem_segmentsText hc
        · rfl
        · exact (hfolder.isSegment s hs).encoded c hc
      refine decide_eq_true ⟨?_, ?_, ?_⟩ <;>
      · rintro rfl
        revert hclean
        decide
    rw [if_neg fun hslash => hlast (hends.1 hslash), htext, withPathText]
    simp only [h.path_eq]
    rw [hkept, h.special, pathAfterHost_segmentsText hfolder.ne_nil hfolder.isSegment,
      Url.asFolder, h.path_eq, UrlPath.asFolder, if_neg hlast]

/-- Folders of one written form are one folder. -/
theorem asFolder_path_eq {url' : Url} {segs' : List String} (h : url.HasSegments segs)
    (h' : url'.HasSegments segs')
    (heq : folderText url.path.toList = folderText url'.path.toList) :
    url.asFolder.path = url'.asFolder.path := by
  have hfolder := h.asFolder
  have hfolder' := h'.asFolder
  rw [← h.toList_asFolder, ← h'.toList_asFolder, hfolder.toList_path, hfolder'.toList_path] at heq
  rw [hfolder.path_eq, hfolder'.path_eq, segmentsText_injective hfolder.ne_nil hfolder'.ne_nil
    hfolder.isSegment hfolder'.isSegment heq]

end HasSegments

end

/-! ## Files -/

/-- A name that is left as it is when it is read as a URL. -/
structure IsFileName (name : String) : Prop where
  isName : IsName name
  isSegment : IsSegment name
  body_eq : (Parts.ofList name.toList).body = name.toList

/-- A name that is resolved against a URL takes the place of the last segment of its path. Query and
fragment are gone. -/
theorem HasSegments.join {base : Url} {segs : List String} {name : String}
    (h : base.HasSegments segs) (hname : IsFileName name) :
    base.join name = .ok { base with
      path := .segments (segs.dropLast ++ [name]), query := none, fragment := none } := by
  obtain ⟨c, rest, hbody, hslash, hback⟩ := hname.isName.noSlash
  have hrooted : base.path.isRootless = false := by
    rw [h.path_eq]
    rfl
  have hfile : base.scheme ≠ "file" := fun hfile => by
    have hspecial := h.special
    rw [hfile] at hspecial
    cases hspecial
  have hpiece : pieces .special name.toList = [name].map String.toList := by
    have hone := pieces_intercalate (List.cons_ne_nil name [])
      (List.forall_mem_singleton.2 hname.isSegment)
    simpa using hone
  have hresolve : resolve .special segs.dropLast name.toList = segs.dropLast ++ [name] := by
    rw [resolve_special, hpiece, walk_segments (List.forall_mem_singleton.2 hname.isSegment)]
  have hsegs : baseSegments base = segs := by
    rw [baseSegments, h.path_eq]
  rw [join_of_rooted hname.isName hrooted]
  dsimp only
  rw [if_neg hfile, hbody]
  unfold relativeTo
  dsimp only
  rw [if_neg (not_or.2 ⟨hslash, hback⟩), ← hbody, hname.body_eq, h.special, hsegs, hresolve, onBase,
    hname.isName.noQuery, hname.isName.noFragment]
  rfl

end Newsdesk.Url
