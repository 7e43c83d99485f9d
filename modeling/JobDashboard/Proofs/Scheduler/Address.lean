import JobDashboard.Proofs.Url.Names
import JobDashboard.Scheduler.Client

/-!
# What a call is addressed to

The path of a call goes on from the base path with the version of the interface and the names of the
call. It reads so exactly if the names are plain and the base path is not just two slashes, which
count as one. Plain names are told apart by the path.
-/
namespace JobDashboard

namespace SchedulerClient

open Url

theorem isPlain_version : ∀ name ∈ version, IsPlain name := by decide

theorem segmentText_version (special : Bool) :
    segmentText special "api" = "api" ∧ segmentText special "v1" = "v1" := by
  cases special <;> decide

theorem pushAll_version {scheme : String} {path : List String}
    (h : IsPath (scheme = "file") path) :
    pushAll scheme (withoutEmptyEnd path) version = start path ++ version := by
  obtain ⟨hapi, hv1⟩ := segmentText_version (isSpecial scheme)
  have hkept : isLeftOut "api" = false ∧ isLeftOut "v1" = false := by decide
  have hheaded (hfile : decide (scheme = "file") = true) :
      (start path ++ ["api"]).head? ≠ some "" := head_append_ne (head_start_ne h hfile) (by decide)
  have hfirst : push (scheme = "file") (start path) "api" = start path ++ ["api"] := by
    rw [← hapi] at hheaded ⊢
    exact push_of_isPlain (isPlain_version _ (by decide)) (start_ne path) hheaded
  have hsecond : push (scheme = "file") (start path ++ ["api"]) "v1" =
      start path ++ ["api"] ++ ["v1"] := by
    have hroot : start path ++ ["api"] ≠ [""] := by
      rw [Ne, List.append_eq_singleton_iff]
      simp
    rw [← hv1]
    refine push_of_isPlain (isPlain_version _ (by decide)) hroot fun hfile => ?_
    exact head_append_ne (hheaded hfile) (by rw [hv1]; decide)
  rw [version, ← List.singleton_append, pushAll_append, pushAll_singleton, pushAll_singleton,
    hkept.1, hkept.2, if_neg Bool.false_ne_true, if_neg Bool.false_ne_true, hapi, hv1, push_start,
    hfirst, hsecond, List.append_assoc]

theorem hasPath_base {s : String} {c : SchedulerClient} (hc : ofString s = .ok c) :
    HasPath c.base := by
  unfold ofString at hc
  split at hc
  · cases hc
  · next url hurl =>
    split at hc
    · next hbase =>
      obtain rfl := Except.ok.inj hc
      exact hasPath_of_ofString hurl hbase
    · cases hc

theorem ofString_of_url {s : String} {url : Url} (h : (Url.ofString s).toOption = some url)
    (hbase : url.isBase = true) : ofString s = .ok ⟨url, hbase⟩ := by
  cases hurl : Url.ofString s with
  | error e =>
    rw [hurl] at h
    cases h
  | ok u =>
    rw [hurl] at h
    obtain rfl := Option.some.inj h
    rw [ofString, hurl]
    exact dif_pos hbase

/-- The parts between the slashes of a call's path, as they are read. -/
def parts (c : SchedulerClient) (call : Call) : List (Option String) :=
  readParts (Route.segments (pathText (c.url call).path))

section

variable {c : SchedulerClient} {path : List String}

theorem path_url (hpath : c.base.path = .segments path) (h : IsPath (c.base.scheme = "file") path)
    (call : Call) :
    (c.url call).path = .segments (pushAll c.base.scheme (start path ++ version) call.names) := by
  have hpairs : (c.url call).path = (c.base.extend (version ++ call.names)).path := by
    rw [url, withPairs]
    split <;> rfl
  rw [hpairs, extend, hpath]
  dsimp only
  rw [pushAll_append, pushAll_version h]

theorem slashFree_start {file : Bool} (h : IsPath file path) :
    ∀ segment ∈ start path ++ version, '/' ∉ segment.toList := by
  intro segment hsegment
  obtain hsegment | hsegment := List.mem_append.mp hsegment
  · refine h.slashFree segment ((isPrefix_withoutEmptyEnd path).subset ?_)
    unfold start at hsegment
    split at hsegment
    · cases hsegment
    · exact hsegment
  · have hversion : ∀ segment ∈ version, '/' ∉ segment.toList := by decide
    exact hversion segment hsegment

theorem parts_eq (hpath : c.base.path = .segments path) (h : IsPath (c.base.scheme = "file") path)
    (call : Call) :
    c.parts call =
      some "" :: readParts (pushAll c.base.scheme (start path ++ version) call.names) := by
  rw [parts, path_url hpath h, segments_pathText (slashFree_pushAll (slashFree_start h) call.names)]
  rfl

/-- Behind the version, names are read one for one exactly if they are plain. -/
theorem readParts_names_iff (h : IsPath (c.base.scheme = "file") path) (names : List String) :
    readParts (pushAll c.base.scheme (start path ++ version) names) =
      readParts (start path ++ version) ++ names.map some ↔ ∀ name ∈ names, IsPlain name := by
  refine readParts_pushAll_iff (by simp [version]) (fun hfile => ?_) names
  exact head_append_ne (head_start_ne h (decide_eq_true hfile)) (by decide)

/-- Of two slashes one is lost, so the path is too short whatever the names are. -/
theorem parts_ne_of_slashes (hpath : c.base.path = .segments ["", ""])
    (h : IsPath (c.base.scheme = "file") ["", ""]) (call : Call) :
    c.parts call ≠ readParts ("" :: c.base.path.stem) ++ (version ++ call.names).map some := by
  intro hsame
  have hle := length_pushAll_le c.base.scheme version call.names
  have hlength := congrArg List.length hsame
  have hstart : start ["", ""] = [] := rfl
  have hstem : (UrlPath.segments ["", ""]).stem = [""] := rfl
  rw [parts_eq hpath h, hpath, hstart, hstem, List.nil_append] at hlength
  simp only [readParts, List.length_cons, List.length_map, List.length_append,
    List.length_nil] at hlength
  omega

theorem parts_eq_iff_of_path (hpath : c.base.path = .segments path)
    (h : IsPath (c.base.scheme = "file") path) (call : Call) :
    c.parts call = readParts ("" :: c.base.path.stem) ++ (version ++ call.names).map some ↔
      c.base.path ≠ .segments ["", ""] ∧ ∀ name ∈ call.names, IsPlain name := by
  by_cases hroots : path = ["", ""]
  · subst hroots
    exact iff_of_false (parts_ne_of_slashes hpath h call) fun hne => hne.1 hpath
  · have hne : c.base.path ≠ .segments ["", ""] := fun he =>
      hroots (UrlPath.segments.inj (hpath.symm.trans he))
    have hversion : readParts version = version.map some := rfl
    have hright : readParts ("" :: start path) ++ (version ++ call.names).map some =
        some "" :: (readParts (start path ++ version) ++ call.names.map some) := by
      rw [readParts_append, hversion, List.map_append, List.append_assoc]
      rfl
    rw [parts_eq hpath h, hpath, ← start_eq_stem hroots, hright, List.cons_inj_right,
      readParts_names_iff h, ← hpath, and_iff_right hne]

end

/-- The path of a call is read as that of the base without an empty segment at its end, the version
and the names of the call exactly if these are plain and the base path is not just two slashes.
Calls with plain names and the same path have the same names. -/
theorem parts_eq_names_iff {s : String} {c : SchedulerClient} (hc : ofString s = .ok c) :
    (∀ call, c.parts call = readParts ("" :: c.base.path.stem) ++ (version ++ call.names).map some ↔
      c.base.path ≠ .segments ["", ""] ∧ ∀ name ∈ call.names, IsPlain name) ∧
    ∀ call call', (∀ name ∈ call.names, IsPlain name) → (∀ name ∈ call'.names, IsPlain name) →
      pathText (c.url call).path = pathText (c.url call').path → call.names = call'.names := by
  obtain ⟨path, hpath, h⟩ := hasPath_base hc
  refine ⟨parts_eq_iff_of_path hpath h, fun call call' hplain hplain' hsame => ?_⟩
  have hparts : c.parts call = c.parts call' := congrArg (readParts ∘ Route.segments) hsame
  rw [parts_eq hpath h, parts_eq hpath h, (readParts_names_iff h _).mpr hplain,
    (readParts_names_iff h _).mpr hplain'] at hparts
  have hnames := List.append_cancel_left (List.cons.inj hparts).2
  exact (List.map_inj_right fun _ _ => Option.some.inj).mp hnames

/-- Slashes, percent signs and dots in a name stay in its segment. -/
theorem parts_eq_names_of_slashes :
    let base : Url := ⟨"http", some ⟨"", none, some (.ipv4 ⟨0x7F000001⟩), some 8080⟩,
      .segments ["dash", ""], none, none⟩
    let c : SchedulerClient := ⟨base, rfl⟩
    ofString "http://127.0.0.1:8080/dash/" = .ok c ∧
    c.parts (.getLogs "../a%2e?é" .text) =
      [some "", some "dash", some "api", some "v1", some "jobs", some "../a%2e?é", some "logs"] ∧
    pathText (c.url (.getJob "a/b")).path ≠ pathText (c.url (.getJob "a%2Fb")).path := by
  intro base c
  have hc : ofString "http://127.0.0.1:8080/dash/" = .ok c :=
    ofString_of_url (by decide +kernel) rfl
  obtain ⟨hparts, hnames⟩ := parts_eq_names_iff hc
  refine ⟨hc, (hparts _).mpr ⟨by decide, by decide⟩, fun hsame => ?_⟩
  have h := hnames (.getJob "a/b") (.getJob "a%2Fb") (by decide) (by decide) hsame
  exact absurd h (by decide)

/-- A name of two dots asks for something else, a tab is lost, and two dots between tabs take the
segment before them away. -/
theorem parts_ne_names_of_dots :
    let base : Url := ⟨"http", some ⟨"", none, some (.ipv4 ⟨0x7F000001⟩), some 8080⟩,
      .segments [""], none, none⟩
    let c : SchedulerClient := ⟨base, rfl⟩
    ofString "http://127.0.0.1:8080" = .ok c ∧
    c.request (.getLogs ".." .structured) = c.request (.getJob "logs") ∧
    c.request (.getJob "a\tb") = c.request (.getJob "ab") ∧
    c.parts (.setQueueActive "\t..\t" true) =
      [some "", some "api", some "v1", some "", some "activate"] ∧
    ¬∀ (s : String) (c : SchedulerClient) (call : Call), ofString s = .ok c → c.base.query = none →
      c.parts call = readParts ("" :: c.base.path.stem) ++ (version ++ call.names).map some := by
  intro base c
  have hc : ofString "http://127.0.0.1:8080" = .ok c := ofString_of_url (by decide +kernel) rfl
  refine ⟨hc, by decide +kernel, by decide +kernel, by decide +kernel, fun h => ?_⟩
  exact absurd (h _ c (.getJob "..") hc rfl) (by decide +kernel)

end SchedulerClient

end JobDashboard
