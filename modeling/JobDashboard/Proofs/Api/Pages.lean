import JobDashboard.Proofs.Api.Answer
import JobDashboard.Proofs.Http.Header
import JobDashboard.Proofs.Job.StatusFilter
import JobDashboard.Proofs.Query.LastValue
import JobDashboard.Proofs.Text.Integer
import Mathlib.Data.List.Chain

/-!
# The pages of the job list

The answer to a page of jobs names the page after it, if it was full. Page numbers have a largest
value, and a full page with this number is not answered at all: the sum stops the request. Every page
that is named lies after the one that was asked for, so whoever follows the names meets no page
twice.
-/
namespace JobDashboard

/-- A request for a page of jobs, and the records that the scheduler has on it. -/
structure PageVisit where
  now : Instant
  request : Request
  defaults : SessionParams
  dated : SessionParams.defaultsAt now = .ok defaults
  records : List JobRecord

namespace PageVisit

open JobListQuery (pageSize)

variable {settings : ApiSettings} {v v' : PageVisit} {result : Except Overflow Response}
  {response : Response} {text : String}

def query (v : PageVisit) : JobListQuery :=
  .ofParams (SessionParams.decode (v.request.target.query.getD "") v.defaults)

def page (v : PageVisit) : UInt32 := v.query.page

/-- The one call that is made, with the records of the page as its reply. -/
def asked (v : PageVisit) : Asked := ⟨.listJobs v.query, .ok v.records⟩

def Ends (settings : ApiSettings) (v : PageVisit) (result : Except Overflow Response) : Prop :=
  (Api.answer settings v.now v.request .jobs).Ends (some v.asked) result

/-- The page came back full. -/
def Full (v : PageVisit) : Prop := pageSize ≤ v.records.length

/-- No page number lies after this one. -/
def Last (v : PageVisit) : Prop := v.page.toNat + 1 = UInt32.size

/-- The jobs of the page, without a header for the next. -/
def shown (v : PageVisit) : Response :=
  Api.fetched .jobs (Api.writeList Job.write) (some (v.records.map (·.toJob v.now)))

/-! ## What a visit comes to -/

/-- The answer for a page with this one after it. -/
def naming (v : PageVisit) : Option UInt32 → Response
  | none => v.shown
  | some next => v.shown.withHeader "x-next-page" (toString next.toNat)

theorem ends_iff : v.Ends settings result ↔
    result = (v.query.nextPage v.records.length).map v.naming := by
  have hcount : (v.records.map (·.toJob v.now)).length = v.records.length := List.length_map ..
  have hresult : (v.query.nextPage v.records.length >>= fun
      | none => .ok v.shown
      | some next => .ok (v.shown.withHeader "x-next-page" (toString next.toNat))) =
      (v.query.nextPage v.records.length).map v.naming := by
    cases v.query.nextPage v.records.length with
    | error e => rfl
    | ok next => cases next <;> rfl
  rw [Ends, Api.answer, Api.withParams_eq v.dated, ← hresult]
  constructor
  · intro hends
    obtain ⟨reply, hasked, rfl⟩ := Api.ends_map_call hends
    cases hasked
    simp only [Except.toOption, Option.map_some, Option.getD_some, hcount]
    rfl
  · rintro rfl
    refine Plan.ends_map.mpr ⟨_, Plan.ends_call.mpr ⟨.ok v.records, rfl, rfl⟩, ?_⟩
    simp only [Except.bind, Except.toOption, Option.map_some, Option.getD_some, hcount]
    rfl

theorem next_fits (h : ¬v.Last) : v.query.page.toNat + 1 < UInt32.size := by
  have hpage : v.query.page.toNat < UInt32.size := v.query.page.toNat_lt_size
  have hother : v.query.page.toNat + 1 ≠ UInt32.size := h
  omega

theorem page_lt_next (h : ¬v.Last) : v.page < v.page + 1 := by
  rw [UInt32.lt_iff_toNat_lt, UInt32.toNat_add]
  have hnext : (v.page.toNat + (1 : UInt32).toNat) % 2 ^ 32 = v.page.toNat + 1 :=
    Nat.mod_eq_of_lt (next_fits h)
  omega

theorem ends_iff_of_not_full (h : ¬v.Full) : v.Ends settings result ↔ result = .ok v.shown := by
  rw [ends_iff, JobListQuery.nextPage, if_pos (Nat.lt_of_not_le h)]
  rfl

theorem ends_iff_of_full (h : v.Full) (hlast : ¬v.Last) : v.Ends settings result ↔
    result = .ok (v.shown.withHeader "x-next-page" (toString (v.page + 1).toNat)) := by
  rw [ends_iff, JobListQuery.nextPage, if_neg (Nat.not_lt.mpr h), if_pos (next_fits hlast)]
  rfl

/-- The number after the last one does not fit. -/
theorem ends_iff_of_last (h : v.Full) (hlast : v.Last) :
    v.Ends settings result ↔ result = .error .sum := by
  have hover : ¬v.query.page.toNat + 1 < UInt32.size := Nat.not_lt.mpr (Nat.le_of_eq hlast.symm)
  rw [ends_iff, JobListQuery.nextPage, if_neg (Nat.not_lt.mpr h), if_neg hover]
  rfl

theorem header_shown (v : PageVisit) : v.shown.header "x-next-page" = [] := by
  have hname : ("content-type" == "x-next-page") = false := by decide
  simp [shown, Api.fetched, Response.json, Response.header, hname]

theorem exists_response (settings : ApiSettings) (h : ¬(v.Full ∧ v.Last)) : ∃ response,
    (∀ result, v.Ends settings result ↔ result = .ok response) ∧ response.status = 200 ∧
      (response.header "x-next-page" ≠ [] ↔ v.Full) := by
  by_cases hfull : v.Full
  · refine ⟨_, fun result => ends_iff_of_full hfull fun hlast => h ⟨hfull, hlast⟩, rfl, ?_⟩
    simp [Response.header_withHeader, hfull]
  · refine ⟨_, fun result => ends_iff_of_not_full hfull, rfl, ?_⟩
    simp [header_shown, hfull]

/-- The header tells the page after the one that was asked for. -/
theorem next_of_mem_header (hends : v.Ends settings (.ok response))
    (htext : text ∈ response.header "x-next-page") :
    ∃ next, Text.uint32? text = some next ∧ v.page < next := by
  by_cases hfull : v.Full
  · by_cases hlast : v.Last
    · cases (ends_iff_of_last hfull hlast).mp hends
    · obtain rfl := Except.ok.inj ((ends_iff_of_full hfull hlast).mp hends)
      rw [Response.header_withHeader, List.mem_singleton] at htext
      obtain rfl := htext
      exact ⟨_, Text.uint32?_toString _, page_lt_next hlast⟩
  · obtain rfl := Except.ok.inj ((ends_iff_of_not_full hfull).mp hends)
    simp [header_shown] at htext

/-! ## Following the header -/

/-- The second visit asks for the page that the answer to the first one names. -/
def Follows (settings : ApiSettings) (v v' : PageVisit) : Prop :=
  ∃ response text, v.Ends settings (.ok response) ∧ text ∈ response.header "x-next-page" ∧
    lastValue? "page" (SessionParams.pairsOf (v'.request.target.query.getD "")) = some text

theorem page_eq_of_lastValue? {next : UInt32}
    (htext : lastValue? "page" (SessionParams.pairsOf (v.request.target.query.getD "")) = some text)
    (hnext : Text.uint32? text = some next) : v.page = next := by
  have hpage : v.page =
      (SessionParams.decode (v.request.target.query.getD "") v.defaults).page := rfl
  rw [hpage, SessionParams.decode_eq_ofValues, SessionParams.ofValues]
  simp only [SessionParams.field, htext, Option.bind_some, hnext, Option.getD_some]

theorem page_lt_of_follows (h : Follows settings v v') : v.page < v'.page := by
  obtain ⟨response, text, hends, htext, hasked⟩ := h
  obtain ⟨next, hnext, hlt⟩ := next_of_mem_header hends htext
  rwa [page_eq_of_lastValue? hasked hnext]

/-- Pages grow from each visit to the next, hence along all of them. -/
theorem pairwise_page {visits : List PageVisit} (h : visits.IsChain (Follows settings)) :
    (visits.map page).Pairwise (· < ·) := by
  have hsteps : (visits.map page).IsChain (· < ·) :=
    List.isChain_map_of_isChain page (fun _ _ => page_lt_of_follows) h
  have : Trans (· < · : UInt32 → UInt32 → Prop) (· < ·) (· < ·) := ⟨UInt32.lt_trans⟩
  exact hsteps.pairwise

/-- Every page of jobs is answered, with a header for the next page just when it is full, unless it
is full and no number is left for the page after it. The header names a later page. So no page is
met twice by following it. -/
theorem pages_ascend (settings : ApiSettings) :
    (∀ v : PageVisit, ¬(v.Full ∧ v.Last) → ∃ response,
      (∀ result, v.Ends settings result ↔ result = .ok response) ∧ response.status = 200 ∧
      (response.header "x-next-page" ≠ [] ↔ v.Full) ∧
      ∀ text ∈ response.header "x-next-page",
        ∃ next, Text.uint32? text = some next ∧ v.page < next) ∧
    (∀ v : PageVisit, v.Full ∧ v.Last →
      ∀ result, v.Ends settings result ↔ result = .error .sum) ∧
    ∀ visits : List PageVisit, visits.IsChain (Follows settings) →
      (visits.map page).Pairwise (· < ·) := by
  refine ⟨fun v h => ?_, fun v h result => ends_iff_of_last h.1 h.2, fun visits => pairwise_page⟩
  obtain ⟨response, hends, hstatus, hheader⟩ := exists_response settings h
  exact ⟨response, hends, hstatus, hheader, fun text htext =>
    next_of_mem_header ((hends _).mpr rfl) htext⟩

/-- A full page, visited at the start of March 2024. -/
def march (query : String) : PageVisit where
  now := ⟨1709251200, 0⟩
  request := listRequest (some query)
  defaults := marchParams
  dated := rfl
  records := List.replicate 100 {}

theorem full_march (query : String) : (march query).Full := by
  rw [Full, march, List.length_replicate]
  decide

/-- Onto the last page, which is asked for after another value of its key. -/
theorem pages_ascend_to_last :
    let v := march "q=a&page=4294967294"
    let v' := march "page=0&page=4294967295"
    ∃ response text, v.Ends {} (.ok response) ∧ response.status = 200 ∧
      response.header "x-next-page" = [text] ∧ Text.uint32? text = some 4294967295 ∧
      ([v, v'].map page).Pairwise (· < ·) := by
  intro v v'
  have hpage : v.page = 4294967294 := by decide +kernel
  have hlast : ¬v.Last := by
    rw [Last, hpage]
    decide
  obtain ⟨hanswered, -, hvisits⟩ := pages_ascend {}
  obtain ⟨response, hends, hstatus, -, -⟩ := hanswered v fun h => hlast h.2
  have hnamed : v.Ends {} (.ok response) := (hends _).mpr rfl
  obtain rfl := Except.ok.inj ((ends_iff_of_full (full_march _) hlast).mp hnamed)
  have hheader := Response.header_withHeader v.shown "x-next-page" (toString (v.page + 1).toNat)
  have hfollows : Follows {} v v' := by
    refine ⟨_, _, hnamed, hheader ▸ List.mem_singleton_self _, ?_⟩
    rw [hpage]
    decide +kernel
  refine ⟨_, _, hnamed, hstatus, hheader, ?_, hvisits _ (.cons_cons hfollows (.singleton _))⟩
  rw [hpage]
  exact Text.uint32?_toString 4294967295

/-- A full page with the last number is not answered. -/
theorem no_answer_at_last : ¬∃ response, (march "page=4294967295").Ends {} (.ok response) := by
  rintro ⟨response, hends⟩
  have hpage : (march "page=4294967295").page = 4294967295 := by decide +kernel
  have hlast : (march "page=4294967295").Last := by
    rw [Last, hpage]
    decide
  cases (ends_iff_of_last (full_march _) hlast).mp hends

end PageVisit

end JobDashboard
