import JobDashboard.Proofs.Outcome
import JobDashboard.Proofs.Url.Segment
import JobDashboard.Url.Parse

/-!
# Paths that are read

The segments of an address that was read hold no slash, and a file's path begins with an empty
segment only if it is a bare root. One more segment makes a path longer by one at most.
-/
namespace JobDashboard

namespace Url

/-- The segments of a path: none holds a slash, and in a file's path an empty one comes first only
where it is all there is. -/
structure IsPath (file : Bool) (path : List String) : Prop where
  slashFree : ∀ segment ∈ path, '/' ∉ segment.toList
  headed : file = true → path.head? = some "" → path = [""]

variable {file : Bool} {path : List String}

theorem isPath_nil : IsPath file [] := ⟨by simp, by simp⟩

theorem isPrefix_shorten (file : Bool) (path : List String) : shorten file path <+: path := by
  unfold shorten
  split
  · split
    · exact List.prefix_rfl
    · exact List.nil_prefix
  · exact List.dropLast_prefix path

theorem isSuffix_withoutEmptyRoot (file : Bool) (path : List String) :
    withoutEmptyRoot file path <:+ path := by
  fun_induction withoutEmptyRoot file path with
  | case1 s rest hfile ih => exact ih.trans (List.suffix_cons _ _)
  | case2 s rest hfile => exact List.suffix_rfl
  | case3 path h => exact List.suffix_rfl

theorem getLast?_withoutEmptyRoot (file : Bool) (path : List String) :
    (withoutEmptyRoot file path).getLast? = path.getLast? := by
  fun_induction withoutEmptyRoot file path with
  | case1 segment rest hfile ih => rw [ih, List.getLast?_cons_cons]
  | case2 => rfl
  | case3 => rfl

theorem headed_withoutEmptyRoot (path : List String)
    (h : (withoutEmptyRoot true path).head? = some "") : withoutEmptyRoot true path = [""] := by
  generalize hfile : true = file at h ⊢
  fun_induction withoutEmptyRoot file path with
  | case1 s rest hfile ih => exact ih h
  | case2 s rest hnot => exact absurd hfile.symm hnot
  | case3 path hpath =>
    cases path with
    | nil => cases h
    | cons s rest =>
      obtain rfl := Option.some.inj h
      cases rest with
      | nil => rfl
      | cons next rest => exact (hpath next rest rfl).elim

/-- A path that does not begin with an empty segment is left as it is. -/
theorem withoutEmptyRoot_of_headed (h : file = true → path.head? ≠ some "") :
    withoutEmptyRoot file path = path := by
  fun_induction withoutEmptyRoot file path with
  | case1 s rest hfile ih => exact absurd rfl (h hfile)
  | case2 s rest hfile => rfl
  | case3 path hpath => rfl

/-- One more segment stands behind a beginning of the path, as itself or empty. -/
theorem push_eq (file : Bool) (path : List String) (segment : String) :
    ∃ before last, before <+: path ∧ (last = segment ∨ last = "") ∧
      push file path segment = withoutEmptyRoot file (before ++ [last]) := by
  -- a bare root gives way, and a step back takes a segment away: both leave a beginning of the path
  have hpath : (if path = [""] then [] else path) <+: path := by
    split
    · exact List.nil_prefix
    · exact List.prefix_rfl
  unfold push
  dsimp only
  generalize (if path = [""] then [] else path) = base at hpath ⊢
  split
  · exact ⟨_, "", (isPrefix_shorten file _).trans hpath, .inr rfl, rfl⟩
  split
  · exact ⟨_, "", hpath, .inr rfl, rfl⟩
  · exact ⟨_, segment, hpath, .inl rfl, rfl⟩

theorem push_eq_concat_of_length {segment : String}
    (h : (push file path segment).length = path.length + 1) :
    ∃ last, push file path segment = path ++ [last] ∧ (last = segment ∨ last = "") := by
  obtain ⟨before, last, hbefore, hlast, hpush⟩ := push_eq file path segment
  have hsuffix : withoutEmptyRoot file (before ++ [last]) <:+ before ++ [last] :=
    isSuffix_withoutEmptyRoot file _
  have hle : before.length ≤ path.length := hbefore.length_le
  rw [hpush] at h
  have hle' : path.length + 1 ≤ before.length + 1 := by
    have hlength := hsuffix.length_le
    rw [h, List.length_append, List.length_singleton] at hlength
    exact hlength
  have hpath : before = path := hbefore.eq_of_length (by omega)
  subst hpath
  exact ⟨last, hpush.trans (hsuffix.eq_of_length (by simpa using h)), hlast⟩

theorem length_push_le (file : Bool) (path : List String) (segment : String) :
    (push file path segment).length ≤ path.length + 1 := by
  obtain ⟨before, last, hbefore, -, hpush⟩ := push_eq file path segment
  have hlength := (isSuffix_withoutEmptyRoot file (before ++ [last])).length_le
  rw [← hpush, List.length_append, List.length_singleton] at hlength
  have hle : before.length ≤ path.length := hbefore.length_le
  omega

theorem mem_push {segment t : String} (h : t ∈ push file path segment) :
    t ∈ path ∨ t = segment ∨ t = "" := by
  obtain ⟨before, last, hbefore, hlast, hpush⟩ := push_eq file path segment
  rw [hpush] at h
  obtain h | h := List.mem_append.mp ((isSuffix_withoutEmptyRoot file _).subset h)
  · exact .inl (hbefore.subset h)
  · obtain rfl := List.mem_singleton.mp h
    exact .inr hlast

/-! ## Reading -/

theorem slash_not_mem_encode_inPath {piece : List Char} (h : '/' ∉ piece) :
    '/' ∉ (encode inPath piece).toList := by
  rw [encode, String.toList_ofList]
  exact fun hmem => h (of_slash_mem_encodeChars hmem).1

theorem slashFree_addPieces {pieces : List (List Char)} (hpieces : ∀ piece ∈ pieces, '/' ∉ piece)
    (hpath : ∀ segment ∈ path, '/' ∉ segment.toList) :
    ∀ segment ∈ addPieces file path pieces, '/' ∉ segment.toList := by
  induction pieces generalizing path with
  | nil => exact hpath
  | cons piece rest ih =>
    have hpiece : '/' ∉ piece := hpieces piece List.mem_cons_self
    have hempty : ∀ segment ∈ (if rest.isEmpty then [""] else []), '/' ∉ segment.toList := by
      split <;> simp
    rw [addPieces]
    refine ih (fun p hp => hpieces p (List.mem_cons_of_mem _ hp)) ?_
    intro segment hsegment
    split at hsegment
    · obtain h | h := List.mem_append.mp hsegment
      · exact hpath segment ((isPrefix_shorten file path).subset h)
      · exact hempty segment h
    split at hsegment
    · obtain h | h := List.mem_append.mp hsegment
      · exact hpath segment h
      · exact hempty segment h
    split at hsegment
    · obtain rfl := List.mem_singleton.mp hsegment
      rw [String.toList_append, String.toList_ofList, List.mem_append, not_or]
      exact ⟨fun h => hpiece (List.mem_of_mem_take h), by decide⟩
    · obtain h | h := List.mem_append.mp hsegment
      · exact hpath segment h
      · obtain rfl := List.mem_singleton.mp h
        exact slash_not_mem_encode_inPath hpiece

theorem isPath_readSegments (scheme : String) (cs : List Char) :
    IsPath (scheme = "file") (readSegments scheme cs) := by
  constructor
  · intro segment hsegment
    have hmem := (isSuffix_withoutEmptyRoot _ _).subset hsegment
    exact slashFree_addPieces (fun _ hpiece => not_mem_of_mem_splitOn hpiece) (by simp) segment hmem
  · intro hfile hhead
    rw [readSegments, hfile] at hhead ⊢
    exact headed_withoutEmptyRoot _ hhead

/-- An address has a path of segments. -/
def HasPath (u : Url) : Prop := ∃ path, u.path = .segments path ∧ IsPath (u.scheme = "file") path

theorem hasPath_readFromAuthority {scheme : String} {cs : List Char} {u : Url}
    (h : readFromAuthority scheme cs = .ok u) : HasPath u := by
  simp only [readFromAuthority, Outcome.bind_eq_ok_iff, Outcome.pure_eq, Except.ok.injEq] at h
  obtain ⟨authority, -, rfl⟩ := h
  refine ⟨_, rfl, ?_⟩
  dsimp only
  split
  · exact isPath_nil
  · exact isPath_readSegments scheme _

theorem hasPath_readFile {cs : List Char} {u : Url} (h : readFile cs = .ok u) : HasPath u := by
  unfold readFile at h
  dsimp only at h
  repeat' split at h
  all_goals
    obtain ⟨_, -, hu⟩ := Outcome.bind_eq_ok_iff.mp h
    obtain rfl := Except.ok.inj hu
    exact ⟨_, rfl, isPath_readSegments "file" _⟩

theorem exists_segments_of_isBase {u : Url} (hnone : u.authority = none)
    (h : u.isBase = true) : ∃ path, u.path = .segments path := by
  rw [isBase, hnone] at h
  cases hpath : u.path with
  | rootless text => simp [hpath] at h
  | segments path => exact ⟨path, rfl⟩

theorem hasPath_readOther {scheme : String} {cs : List Char} {u : Url}
    (h : readOther scheme cs = .ok u) (hbase : u.isBase = true) : HasPath u := by
  unfold readOther at h
  split at h
  · exact hasPath_readFromAuthority h
  · obtain rfl := Except.ok.inj h
    obtain ⟨path, hpath⟩ := exists_segments_of_isBase rfl hbase
    refine ⟨path, hpath, ?_⟩
    dsimp only at hpath ⊢
    split at hpath
    · exact UrlPath.segments.inj hpath ▸ isPath_readSegments scheme _
    · cases hpath

/-- Paths can be put behind an address that was read only if it has a path of segments. -/
theorem hasPath_of_ofString {s : String} {u : Url} (h : ofString s = .ok u)
    (hbase : u.isBase = true) : HasPath u := by
  unfold ofString at h
  split at h
  · cases h
  · dsimp only at h
    split at h
    · exact hasPath_readFile h
    split at h
    · exact hasPath_readFromAuthority h
    · exact hasPath_readOther h hbase

end Url

end JobDashboard
