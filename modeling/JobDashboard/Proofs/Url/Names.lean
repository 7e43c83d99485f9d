import JobDashboard.Proofs.Url.Path
import Mathlib.Data.List.Induction

/-!
# Names behind a path

A name is plain if it is neither one dot nor two and holds no tab and no line end. Plain names stand
behind a path one for one and are read as they are; with any other name, what is read differs.
-/
namespace JobDashboard

namespace Url

/-- A name that stands in a path as a segment of its own and as it is. -/
structure IsPlain (name : String) : Prop where
  kept : isLeftOut name = false
  unbroken : ∀ c ∈ name.toList, c ≠ '\t' ∧ c ≠ '\n' ∧ c ≠ '\r'

/-- What a segment keeps of a name. -/
def unbroken (name : String) : List Char :=
  name.toList.filter fun c => c ≠ '\t' && c ≠ '\n' && c ≠ '\r'

theorem unbroken_eq_iff {name : String} :
    unbroken name = name.toList ↔ ∀ c ∈ name.toList, c ≠ '\t' ∧ c ≠ '\n' ∧ c ≠ '\r' := by
  simp [unbroken, List.filter_eq_self, and_assoc]

instance : DecidablePred IsPlain := fun name =>
  decidable_of_iff (isLeftOut name = false ∧ unbroken name = name.toList)
    ⟨fun h => ⟨h.1, unbroken_eq_iff.mp h.2⟩, fun h => ⟨h.kept, unbroken_eq_iff.mpr h.unbroken⟩⟩

/-- The parts of a path as they are read. -/
def readParts (parts : List String) : List (Option String) :=
  parts.map fun part => PathName.text? ⟨part⟩

theorem readParts_append (parts parts' : List String) :
    readParts (parts ++ parts') = readParts parts ++ readParts parts' := List.map_append

theorem text?_segmentText (special : Bool) (name : String) :
    PathName.text? ⟨segmentText special name⟩ = some (String.ofList (unbroken name)) := by
  have hread : FormUrlencoded.percentDecode (Utf8.encode (segmentText special name)) =
      Utf8.encodeChars (unbroken name) := percentDecode_encode (isReadable_inSegment special) _
  have hdecode := Utf8.decode?_encode (String.ofList (unbroken name))
  rw [Utf8.encode, String.toList_ofList] at hdecode
  rw [PathName.text?, hread, hdecode]

theorem text?_segmentText_of_isPlain {special : Bool} {name : String} (h : IsPlain name) :
    PathName.text? ⟨segmentText special name⟩ = some name := by
  rw [text?_segmentText, unbroken_eq_iff.mpr h.unbroken, String.ofList_toList]

theorem readParts_of_isPlain {special : Bool} {names : List String}
    (h : ∀ name ∈ names, IsPlain name) :
    readParts (names.map (segmentText special)) = names.map some := by
  rw [readParts, List.map_map]
  refine List.map_congr_left fun name hname => ?_
  rw [Function.comp_apply, text?_segmentText_of_isPlain (h name hname)]

theorem slash_not_mem_segmentText (special : Bool) (name : String) :
    '/' ∉ (segmentText special name).toList := by
  rw [segmentText, encode, String.toList_ofList]
  intro h
  exact absurd (of_slash_mem_encodeChars h).2 (by simp [inSegment])

/-- A plain name is no step. -/
theorem noStep_of_isPlain {name : String} (h : IsPlain name) (special : Bool) :
    ¬isDoubleDot (segmentText special name) = true ∧
      ¬isSingleDot (segmentText special name) = true := by
  have hchars : unbroken name = name.toList := unbroken_eq_iff.mpr h.unbroken
  have hdots : name ≠ "." ∧ name ≠ ".." := by simpa [isLeftOut] using h.kept
  have hset := isReadable_inSegment special
  constructor
  · intro hd
    have hname : unbroken name = ['.', '.'] := eq_of_isDoubleDot_encode hset hd
    exact hdots.2 (String.toList_inj.mp (hchars.symm.trans hname))
  · intro hs
    have hname : unbroken name = ['.'] := eq_of_isSingleDot_encode hset hs
    exact hdots.1 (String.toList_inj.mp (hchars.symm.trans hname))

theorem push_of_isPlain {special file : Bool} {path : List String} {name : String}
    (h : IsPlain name) (hroot : path ≠ [""])
    (hheaded : file = true → (path ++ [segmentText special name]).head? ≠ some "") :
    push file path (segmentText special name) = path ++ [segmentText special name] := by
  obtain ⟨hdouble, hsingle⟩ := noStep_of_isPlain h special
  rw [push, if_neg hroot, if_neg hdouble, if_neg hsingle, withoutEmptyRoot_of_headed hheaded]

/-- Whatever stands before it, a plain name is the last segment. -/
theorem getLast?_push_of_isPlain {special : Bool} {name : String} (h : IsPlain name) (file : Bool)
    (path : List String) : (push file path (segmentText special name)).getLast? =
      some (segmentText special name) := by
  obtain ⟨hdouble, hsingle⟩ := noStep_of_isPlain h special
  rw [push, if_neg hdouble, if_neg hsingle, getLast?_withoutEmptyRoot, List.getLast?_concat]

/-! ## Several names -/

variable {scheme : String} {path : List String}

theorem pushAll_append (scheme : String) (path names names' : List String) :
    pushAll scheme path (names ++ names') = pushAll scheme (pushAll scheme path names) names' := by
  simp [pushAll]

theorem pushAll_singleton (scheme : String) (path : List String) (name : String) :
    pushAll scheme path [name] = if isLeftOut name then path
      else push (scheme = "file") path (segmentText (isSpecial scheme) name) := by
  by_cases h : isLeftOut name = true
  · simp [pushAll, h]
  · simp [pushAll, h]

theorem length_pushAll_le (scheme : String) (path names : List String) :
    (pushAll scheme path names).length ≤ path.length + names.length := by
  induction names using List.reverseRecOn with
  | nil => exact Nat.le_refl _
  | append_singleton names name ih =>
    rw [pushAll_append, pushAll_singleton, List.length_append, List.length_singleton]
    split
    · omega
    · have hpush := length_push_le (scheme = "file") (pushAll scheme path names)
        (segmentText (isSpecial scheme) name)
      omega

theorem slashFree_pushAll (hpath : ∀ segment ∈ path, '/' ∉ segment.toList) (names : List String) :
    ∀ segment ∈ pushAll scheme path names, '/' ∉ segment.toList := by
  induction names using List.reverseRecOn with
  | nil => exact hpath
  | append_singleton names name ih =>
    rw [pushAll_append, pushAll_singleton]
    split
    · exact ih
    · intro segment hsegment
      obtain h | rfl | rfl := mem_push hsegment
      · exact ih segment h
      · exact slash_not_mem_segmentText _ name
      · decide

theorem getLast?_pushAll (names : List String) {name : String} (h : IsPlain name) :
    (pushAll scheme path (names ++ [name])).getLast? =
      some (segmentText (isSpecial scheme) name) := by
  rw [pushAll_append, pushAll_singleton, h.kept, if_neg Bool.false_ne_true,
    getLast?_push_of_isPlain h]

/-- Plain names stand behind a path one for one. -/
theorem pushAll_of_isPlain (hlong : 2 ≤ path.length)
    (hheaded : scheme = "file" → path.head? ≠ some "") {names : List String}
    (hplain : ∀ name ∈ names, IsPlain name) :
    pushAll scheme path names = path ++ names.map (segmentText (isSpecial scheme)) := by
  induction names using List.reverseRecOn with
  | nil => simp [pushAll]
  | append_singleton names name ih =>
    have hname : IsPlain name := hplain name (by simp)
    rw [pushAll_append, pushAll_singleton, hname.kept, if_neg Bool.false_ne_true,
      ih fun n hn => hplain n (List.mem_append_left _ hn), push_of_isPlain hname]
    · simp
    · intro h
      have hlength := congrArg List.length h
      rw [List.length_append, List.length_singleton] at hlength
      omega
    · intro hfile
      obtain ⟨first, rest, rfl⟩ : ∃ first rest, path = first :: rest :=
        List.exists_cons_of_length_pos (by omega)
      exact hheaded (of_decide_eq_true hfile)

/-- A segment that a name became is read as the name only if the name is plain. -/
theorem isPlain_of_text? {special : Bool} {name segment : String} (hleft : isLeftOut name = false)
    (hsegment : segment = segmentText special name ∨ segment = "")
    (h : PathName.text? ⟨segment⟩ = some name) : IsPlain name := by
  refine ⟨hleft, ?_⟩
  obtain rfl | rfl := hsegment
  · rw [text?_segmentText, Option.some.injEq] at h
    have hchars := congrArg String.toList h
    rw [String.toList_ofList] at hchars
    exact unbroken_eq_iff.mp hchars
  · have hempty : PathName.text? ⟨""⟩ = some "" := rfl
    obtain rfl : "" = name := Option.some.inj (hempty.symm.trans h)
    simp

/-- One more name is read behind as many parts as the path has only if the path is read as them and
the name is plain. -/
theorem of_readParts_pushAll_singleton {parts : List (Option String)} {name : String}
    (hle : path.length ≤ parts.length)
    (h : readParts (pushAll scheme path [name]) = parts ++ [some name]) :
    readParts path = parts ∧ IsPlain name := by
  rw [pushAll_singleton] at h
  have hlength := congrArg List.length h
  rw [readParts, List.length_map, List.length_append, List.length_singleton] at hlength
  split at h
  · next hleft =>
    rw [if_pos hleft] at hlength
    omega
  · next hleft =>
    rw [if_neg hleft] at hlength
    have hpush := length_push_le (scheme = "file") path (segmentText (isSpecial scheme) name)
    obtain ⟨last, hlast, hor⟩ := push_eq_concat_of_length (hlength.trans (by omega))
    rw [hlast, readParts_append] at h
    obtain ⟨hpath, hread⟩ := List.append_inj' h rfl
    exact ⟨hpath, isPlain_of_text? (by simpa using hleft) hor (List.singleton_inj.mp hread)⟩

/-- Names are read behind a path one for one exactly if they are plain. -/
theorem readParts_pushAll_iff (hlong : 2 ≤ path.length)
    (hheaded : scheme = "file" → path.head? ≠ some "") (names : List String) :
    readParts (pushAll scheme path names) = readParts path ++ names.map some ↔
      ∀ name ∈ names, IsPlain name := by
  constructor
  · intro h
    -- from the last name to the first: no name makes up for one that is lost
    induction names using List.reverseRecOn with
    | nil => simp
    | append_singleton names name ih =>
      rw [pushAll_append, List.map_append, ← List.append_assoc] at h
      have hle : (pushAll scheme path names).length ≤
          (readParts path ++ names.map some).length := by
        rw [List.length_append, readParts, List.length_map, List.length_map]
        exact length_pushAll_le scheme path names
      obtain ⟨hnames, hname⟩ := of_readParts_pushAll_singleton hle h
      intro n hn
      obtain hn | hn := List.mem_append.mp hn
      · exact ih hnames n hn
      · exact List.mem_singleton.mp hn ▸ hname
  · intro hplain
    rw [pushAll_of_isPlain hlong hheaded hplain, readParts_append, readParts_of_isPlain hplain]

/-! ## Where names begin -/

/-- The segments that stay before the first name. -/
def start (path : List String) : List String :=
  if withoutEmptyEnd path = [""] then [] else withoutEmptyEnd path

theorem withoutEmptyEnd_concat (init : List String) (last : String) :
    withoutEmptyEnd (init ++ [last]) = if init ≠ [] ∧ last = "" then init else init ++ [last] := by
  simp [withoutEmptyEnd, List.length_pos_iff]

theorem isPrefix_withoutEmptyEnd (path : List String) : withoutEmptyEnd path <+: path := by
  unfold withoutEmptyEnd
  split
  · exact List.dropLast_prefix path
  · exact List.prefix_rfl

theorem head_start_ne {file : Bool} {path : List String} (h : IsPath file path)
    (hfile : file = true) : (start path).head? ≠ some "" := by
  intro hhead
  unfold start at hhead
  split at hhead
  · cases hhead
  · next hroot =>
    obtain ⟨added, hadded⟩ := isPrefix_withoutEmptyEnd path
    have hpath : path = [""] := by
      apply h.headed hfile
      rw [← hadded, List.head?_append, hhead]
      rfl
    exact hroot (by rw [hpath]; rfl)

theorem head_append_ne {path rest : List String} (h : path.head? ≠ some "")
    (hrest : rest.head? ≠ some "") : (path ++ rest).head? ≠ some "" := by
  cases path with
  | nil => exact hrest
  | cons first path => exact h

theorem start_ne (path : List String) : start path ≠ [""] := by
  unfold start
  split
  · simp
  · assumption

theorem push_start (file : Bool) (path : List String) (segment : String) :
    push file (withoutEmptyEnd path) segment = push file (start path) segment := by
  unfold start
  split
  · next hroot => rw [hroot]; rfl
  · rfl

end Url

/-- The segments of a path without an empty one at its end. -/
def UrlPath.stem : UrlPath → List String
  | rootless _ => []
  | segments path => if path.getLast? = some "" then path.dropLast else path

theorem Url.start_eq_stem {path : List String} (h : path ≠ ["", ""]) :
    start path = (UrlPath.segments path).stem := by
  obtain rfl | ⟨init, last, rfl⟩ := List.eq_nil_or_concat path
  · rfl
  rw [List.concat_eq_append] at h ⊢
  rw [start, UrlPath.stem, withoutEmptyEnd_concat, List.getLast?_concat, List.dropLast_concat]
  by_cases hlast : last = ""
  · subst hlast
    by_cases hinit : init = []
    · simp [hinit]
    · have hroot : init ≠ [""] := by
        rintro rfl
        exact h rfl
      simp [hinit, hroot]
  · have hroot : init ++ [last] ≠ [""] := by
      rw [Ne, List.append_eq_singleton_iff]
      simp [hlast]
    simp [hlast, hroot]

end JobDashboard
