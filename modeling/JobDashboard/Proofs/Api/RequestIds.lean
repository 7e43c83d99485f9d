import JobDashboard.Proofs.Api.Server
import JobDashboard.Proofs.Http.Header
import JobDashboard.Proofs.Text.FormUrlencoded

/-!
# The id of a request

The caller's id passes three tests on its way in and one on its way out, each over bytes: it is read
as text, it is short and visible, and it can stand in a header again. What passes the second passes
all, so the id that a request is handled under is always the one that its response carries, and the
next server keeps it.
-/
namespace JobDashboard

/-- One to 128 bytes of visible ASCII. -/
structure IsIdText (bs : Bytes) : Prop where
  nonempty : bs ≠ []
  short : bs.length ≤ 128
  visible : ∀ b ∈ bs, 0x21 ≤ b ∧ b ≤ 0x7E

/-- The form of a generated id: 36 bytes of visible ASCII. -/
structure IsGenerated (id : String) : Prop where
  length_eq : (Utf8.encode id).length = 36
  visible : ∀ b ∈ Utf8.encode id, 0x21 ≤ b ∧ b ≤ 0x7E

theorem IsGenerated.isIdText {id : String} (h : IsGenerated id) : IsIdText (Utf8.encode id) := by
  have hlength := h.length_eq
  refine ⟨fun hempty => ?_, by omega, h.visible⟩
  rw [hempty] at hlength
  cases hlength

namespace HeaderValue

/-- Text that is read of a value is the value's bytes. -/
theorem encode_of_text? {value : Bytes} {text : String} (h : text? value = some text) :
    Utf8.encode text = value := by
  rw [text?] at h
  split at h
  · next hprintable =>
    obtain rfl := Option.some.inj h
    rw [Utf8.encode, FormUrlencoded.asciiText, String.toList_ofList]
    refine FormUrlencoded.encodeChars_chars fun b hb => ?_
    have hb' := List.all_eq_true.mp hprintable b hb
    simp only [Bool.or_eq_true, Bool.and_eq_true, decide_eq_true_eq, UInt8.le_iff_toNat_le] at hb'
    obtain rfl | ⟨-, hhigh⟩ := hb'
    · decide
    · exact Nat.lt_of_le_of_lt hhigh (by decide)
  · cases h

theorem exists_text? {value : Bytes} (h : IsIdText value) : ∃ text, text? value = some text := by
  refine ⟨_, if_pos (List.all_eq_true.mpr fun b hb => ?_)⟩
  obtain ⟨hlow, hhigh⟩ := h.visible b hb
  have hlow' : 0x20 ≤ b := UInt8.le_trans (by decide) hlow
  simp [hlow', hhigh]

theorem admits_of_isIdText {text : String} (h : IsIdText (Utf8.encode text)) :
    admits text = true := by
  refine List.all_eq_true.mpr fun b hb => ?_
  obtain ⟨hlow, hhigh⟩ := h.visible b hb
  have hlow' : 0x20 ≤ b := UInt8.le_trans (by decide) hlow
  have hdel : b ≠ 0x7F := by
    rintro rfl
    exact absurd hhigh (by decide)
  simp [hlow', hdel]

end HeaderValue

namespace RequestId

open HeaderValue

variable {fresh id : String} {values : List Bytes}

theorem isAcceptable_iff : isAcceptable id = true ↔ IsIdText (Utf8.encode id) := by
  have hvisible : (Utf8.encode id).all isVisible = true ↔
      ∀ b ∈ Utf8.encode id, 0x21 ≤ b ∧ b ≤ 0x7E := by
    simp [isVisible]
  have hshort : decide ((Utf8.encode id).length ≤ maxLength) = true ↔
      (Utf8.encode id).length ≤ 128 := decide_eq_true_iff
  simp only [isAcceptable, Bool.and_eq_true, Bool.not_eq_true', List.isEmpty_eq_false_iff,
    hvisible, hshort]
  exact ⟨fun ⟨⟨hnonempty, hshort⟩, hall⟩ => ⟨hnonempty, hshort, hall⟩,
    fun h => ⟨⟨h.nonempty, h.short⟩, h.visible⟩⟩

/-- The caller's id is kept if it is the first value and of the right form. -/
theorem kept?_eq_some_iff :
    kept? values = some id ↔ values.head? = some (Utf8.encode id) ∧ IsIdText (Utf8.encode id) := by
  rw [kept?, Option.filter_eq_some_iff, isAcceptable_iff, Option.bind_eq_some_iff]
  constructor
  · rintro ⟨⟨value, hfirst, htext⟩, hform⟩
    rw [encode_of_text? htext]
    exact ⟨hfirst, encode_of_text? htext ▸ hform⟩
  · rintro ⟨hfirst, hform⟩
    obtain ⟨text, htext⟩ := exists_text? hform
    have hsame : text = id := by
      rw [← String.toList_inj]
      exact Utf8.encodeChars_injective (encode_of_text? htext)
    exact ⟨⟨_, hfirst, hsame ▸ htext⟩, hform⟩

theorem exists_kept? {value : Bytes} (hfirst : values.head? = some value) (h : IsIdText value) :
    ∃ id, kept? values = some id := by
  obtain ⟨text, htext⟩ := exists_text? h
  refine ⟨text, kept?_eq_some_iff.mpr ?_⟩
  rw [encode_of_text? htext]
  exact ⟨hfirst, h⟩

theorem choose_of_kept? (h : kept? values = some id) : choose fresh values = id := by
  rw [choose, h, Option.getD_some]

theorem choose_of_not (h : ¬∃ value, values.head? = some value ∧ IsIdText value) :
    choose fresh values = fresh := by
  have hnone : kept? values = none := by
    rw [Option.eq_none_iff_forall_ne_some]
    exact fun id hkept => h ⟨_, kept?_eq_some_iff.mp hkept⟩
  rw [choose, hnone, Option.getD_none]

theorem isIdText_choose (h : IsIdText (Utf8.encode fresh)) (values : List Bytes) :
    IsIdText (Utf8.encode (choose fresh values)) := by
  by_cases hfirst : ∃ value, values.head? = some value ∧ IsIdText value
  · obtain ⟨value, hvalue, hform⟩ := hfirst
    obtain ⟨id, hid⟩ := exists_kept? hvalue hform
    rw [choose_of_kept? hid]
    exact (kept?_eq_some_iff.mp hid).2
  · rwa [choose_of_not hfirst]

theorem head?_eq_choose_iff (h : IsIdText (Utf8.encode fresh)) (values : List Bytes) :
    values.head? = some (Utf8.encode (choose fresh values)) ↔
      ∃ value, values.head? = some value ∧ IsIdText value := by
  refine ⟨fun hfirst => ⟨_, hfirst, isIdText_choose h values⟩, ?_⟩
  rintro ⟨value, hvalue, hform⟩
  obtain ⟨id, hid⟩ := exists_kept? hvalue hform
  rw [choose_of_kept? hid]
  exact (kept?_eq_some_iff.mp hid).1

end RequestId

namespace Api

open RequestId

variable {fresh : String} {asked : Option Asked} {response : Response}

theorem header_stamped {id : String} (h : IsIdText (Utf8.encode id)) (r : Response) :
    (stamped id r).header RequestId.header = [id] := by
  rw [stamped, if_pos (HeaderValue.admits_of_isIdText h), Response.header_withHeader]

/-- A request is handled under the id that its response carries. -/
theorem of_ends_identified {request : Request} {next : String → Plan Response} {id : String}
    (hid : choose fresh (request.header RequestId.header) = id) (h : IsIdText (Utf8.encode id))
    (hends : (identified fresh request next).Ends asked (.ok response)) :
    response.header RequestId.header = [id] ∧ ∃ inner, (next id).Ends asked (.ok inner) := by
  rw [identified, hid] at hends
  obtain ⟨inner, hinner, rfl⟩ := Plan.ends_map_ok.mp hends
  exact ⟨header_stamped h inner, inner, hinner⟩

/-- That every origin may read a response leaves the id on it. -/
theorem header_of_ends_serve (h : IsIdText (Utf8.encode fresh)) {settings : ApiSettings}
    {now : Instant} {request : Request} (hmethod : request.method ≠ "OPTIONS")
    (hends : (serve settings now fresh request).Ends asked (.ok response)) :
    response.header RequestId.header = [choose fresh (request.header RequestId.header)] := by
  rw [serve, if_neg hmethod] at hends
  obtain ⟨marked, hmarked, rfl⟩ := Plan.ends_map_ok.mp hends
  have hname : RequestId.header ≠ "access-control-allow-origin" := by decide
  rw [openToAll, Response.header_withHeader_of_ne hname]
  exact (of_ends_identified rfl (isIdText_choose h _) hmarked).1

/-- Every request has one id, of the right form. It is the first id that the caller brought if that
has this form, and else the fresh one. Whatever answers the request is told this id, and the response
carries it and no other, so do the responses of all routes. The next request that brings it first is
answered under it again. -/
theorem request_ids_stable (hfresh : IsGenerated fresh) (request : Request) :
    let values := request.header RequestId.header
    ∃ id, IsIdText (Utf8.encode id) ∧
      (values.head? = some (Utf8.encode id) ↔
        ∃ value, values.head? = some value ∧ IsIdText value) ∧
      ((¬∃ value, values.head? = some value ∧ IsIdText value) → id = fresh) ∧
      (∀ next asked response, (identified fresh request next).Ends asked (.ok response) →
        response.header RequestId.header = [id] ∧ ∃ inner, (next id).Ends asked (.ok inner)) ∧
      (∀ settings now asked response, request.method ≠ "OPTIONS" →
        (serve settings now fresh request).Ends asked (.ok response) →
        response.header RequestId.header = [id]) ∧
      ∀ fresh' request' next asked response,
        (request'.header RequestId.header).head? = some (Utf8.encode id) →
        (identified fresh' request' next).Ends asked (.ok response) →
        response.header RequestId.header = [id] ∧ ∃ inner, (next id).Ends asked (.ok inner) := by
  intro values
  have hform := isIdText_choose hfresh.isIdText values
  refine ⟨choose fresh values, hform, head?_eq_choose_iff hfresh.isIdText values, choose_of_not,
    fun next asked response hends => of_ends_identified rfl hform hends,
    fun settings now asked response hmethod hends =>
      header_of_ends_serve hfresh.isIdText hmethod hends,
    fun fresh' request' next asked response hfirst hends => ?_⟩
  have hkept : choose fresh' (request'.header RequestId.header) = choose fresh values :=
    choose_of_kept? (kept?_eq_some_iff.mpr ⟨hfirst, hform⟩)
  exact of_ends_identified hkept hform hends

/-- Two words are no id. The value after them is not looked at, and what the route sets itself is
replaced. -/
theorem request_ids_stable_two_words :
    let fresh := "0b7f6d1e-5c0a-4c8e-9f3d-2a6b1c4d5e6f"
    let request : Request := ⟨"GET", ⟨"/health", none⟩,
      [("X-Request-Id", Utf8.encode "two words"), ("x-request-id", Utf8.encode "req-42")], []⟩
    let next (id : String) : Plan Response :=
      .done (.ok ((Response.json 200 (.text id)).withHeader "x-request-id" "own"))
    ∃ response, (identified fresh request next).Ends none (.ok response) ∧
      response.header "x-request-id" = [fresh] ∧
      ∃ inner, (next fresh).Ends none (.ok inner) := by
  intro fresh request next
  have hfresh : IsGenerated fresh := ⟨by decide +kernel, by decide +kernel⟩
  obtain ⟨id, -, -, hid, hresponse, -, -⟩ := request_ids_stable hfresh request
  have hvalues : (request.header RequestId.header).head? = some (Utf8.encode "two words") := by
    decide +kernel
  have hwords : ¬∃ value, (request.header RequestId.header).head? = some value ∧
      IsIdText value := by
    rintro ⟨value, hvalue, hform⟩
    obtain rfl := Option.some.inj (hvalues.symm.trans hvalue)
    have hblank := hform.visible 0x20 (by decide +kernel)
    exact absurd hblank.1 (by decide)
  obtain rfl := hid hwords
  have hends : (identified fresh request next).Ends none (.ok (stamped _
      ((Response.json 200 (.text _)).withHeader "x-request-id" "own"))) := ⟨rfl, rfl⟩
  exact ⟨_, hends, hresponse next none _ hends⟩

end Api

end JobDashboard
