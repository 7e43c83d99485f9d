import JobDashboard.Api.Kill
import JobDashboard.Proofs.Json.Documents
import JobDashboard.Proofs.Scheduler.Address
import JobDashboard.Proofs.Scheduler.Sent

/-!
# Kills that a scheduler is sent

Among all requests those that kill jobs are told by what they are: a POST whose body names jobs as a
kill request does. Redirects keep such a request or turn it into a GET, and no other becomes one. So
only calls to kill jobs send any, and each sends its own, which is repeated only as long as the
answers ask for it.
-/
namespace JobDashboard

namespace KillRequest

open Json (Wire)

theorem read_wire (ids : List String) :
    read (Wire.record [("ids", .list (ids.map .text))]).value = .ok ⟨ids, false⟩ := by
  simp [Wire.value, Wire.memberValues, read, Json.Reader.record, Json.readMembers,
    Json.text_content, Json.RecordField.mandatory, Json.RecordField.defaulted,
    Json.list_itemValues_text]

/-- What is posted to the scheduler names exactly these jobs and confirms nothing by itself. -/
theorem read_request (c : SchedulerClient) (ids : List String) :
    read.document (Utf8.encode (c.request (.killJobs ids)).body) = .ok ⟨ids, false⟩ := by
  have hbody : (c.request (.killJobs ids)).body =
      (Wire.record [("ids", .list (ids.map .text))]).render := rfl
  rw [hbody, Json.Reader.document, Json.Document.read_render]
  simp [read_wire]

end KillRequest

namespace OutgoingRequest

/-- The jobs that a request kills, if it does. -/
def killed? (sent : OutgoingRequest) : Option (List String) :=
  if sent.method = "POST" then
    (KillRequest.read.document (Utf8.encode sent.body)).toOption.map KillRequest.ids
  else none

theorem killed?_get (address : Url) : (get address).killed? = none := rfl

theorem killed?_redirect (sent : OutgoingRequest) (redirect : Redirect) :
    (redirect.request sent).killed? = if redirect.repeats then sent.killed? else none := by
  rw [Redirect.request]
  split
  · rfl
  · exact killed?_get redirect.address

end OutgoingRequest

/-- Whether an answer asks for the same request at an address where it can be sent. -/
def Delivery.isRepeating (delivery : Delivery) : Bool :=
  delivery.redirect?.any fun redirect =>
    redirect.repeats && SchedulerClient.canReach redirect.address

namespace SchedulerClient

open OutgoingRequest (get killed?_get killed?_redirect)

/-! ## Calls -/

theorem killed?_killJobs (c : SchedulerClient) (ids : List String) :
    (c.request (.killJobs ids)).killed? = some ids := by
  have hmethod : (c.request (.killJobs ids)).method = "POST" := rfl
  rw [OutgoingRequest.killed?, if_pos hmethod, KillRequest.read_request]
  rfl

theorem killed?_eq_none (c : SchedulerClient) {call : Call} (h : ∀ ids, call ≠ .killJobs ids) :
    (c.request call).killed? = none := by
  cases call with
  | killJobs ids => exact absurd rfl (h ids)
  | setQueueActive queue active =>
    have hbody : (c.request (.setQueueActive queue active)).body = "[]" := rfl
    have hread : KillRequest.read.document (Utf8.encode "[]") = .error .mismatch := by
      decide +kernel
    rw [OutgoingRequest.killed?, hbody, hread]
    exact ite_self none
  | _ => exact killed?_get _

/-- A change to a queue is addressed to something that is not called `kill`. -/
theorem target_setQueueActive_ne {s : String} {c : SchedulerClient} (hc : ofString s = .ok c)
    (queue : String) (active : Bool) :
    (c.url (.setQueueActive queue active)).target ≠ (c.url (.killJobs [])).target := by
  obtain ⟨path, hpath, h⟩ := hasPath_base hc
  intro hsame
  have hquery (call : Call) (hpairs : call.pairs = []) : (c.url call).query = c.base.query := by
    rw [url, hpairs, Url.withPairs, List.isEmpty_nil, if_pos rfl, Url.extend, hpath]
  have hparts (call : Call) : Route.segments (Url.pathText (c.url call).path) =
      "" :: Url.pushAll c.base.scheme (Url.start path ++ version) call.names := by
    rw [path_url hpath h,
      Url.segments_pathText (Url.slashFree_pushAll (slashFree_start h) call.names)]
  have htext : Url.pathText (c.url (.setQueueActive queue active)).path =
      Url.pathText (c.url (.killJobs [])).path := by
    rw [Url.target, Url.target, hquery _ rfl, hquery _ rfl] at hsame
    exact (String.append_left_inj _).mp hsame
  have hsegments := congrArg Route.segments htext
  rw [hparts, hparts] at hsegments
  have hlast := congrArg List.getLast? (List.cons.inj hsegments).2
  have hactive : Url.IsPlain (if active then "activate" else "deactivate") := by
    cases active <;> decide
  have hkill : Url.IsPlain "kill" := by decide
  have hnames : (Call.setQueueActive queue active).names =
      ["job_queues", queue] ++ [if active then "activate" else "deactivate"] := rfl
  have hnames' : (Call.killJobs []).names = ["jobs"] ++ ["kill"] := rfl
  rw [hnames, hnames', Url.getLast?_pushAll _ hactive, Url.getLast?_pushAll _ hkill,
    Option.some.injEq] at hlast
  cases active <;> cases hspecial : Url.isSpecial c.base.scheme <;> rw [hspecial] at hlast <;>
    exact absurd hlast (by decide)

/-- Exactly the calls to kill jobs post to the address that kills jobs. -/
theorem posts_kill_iff {s : String} {c : SchedulerClient} (hc : ofString s = .ok c) (call : Call) :
    (c.request call).method = "POST" ∧ (c.request call).target = (c.url (.killJobs [])).target ↔
      ∃ ids, call = .killJobs ids := by
  constructor
  · intro h
    cases call with
    | killJobs ids => exact ⟨ids, rfl⟩
    | setQueueActive queue active => exact absurd h.2 (target_setQueueActive_ne hc queue active)
    | _ => exact absurd h.1 (by decide : "GET" ≠ "POST")
  · rintro ⟨ids, rfl⟩
    exact ⟨rfl, rfl⟩

/-! ## Trails -/

/-- The exchanges that kill jobs. -/
def kills (exchanges : List Exchange) : List Exchange :=
  exchanges.filter fun e => e.1.killed?.isSome

theorem kills_append (exchanges exchanges' : List Exchange) :
    kills (exchanges ++ exchanges') = kills exchanges ++ kills exchanges' :=
  List.filter_append exchanges exchanges'

variable {hops : Nat} {sent : OutgoingRequest} {delivery : Delivery} {trail : List Exchange}
  {ids : List String}

theorem kills_cons_of_some (h : sent.killed? = some ids) :
    kills ((sent, delivery) :: trail) = (sent, delivery) :: kills trail :=
  List.filter_cons_of_pos (by simp [h])

theorem kills_cons_of_none (h : sent.killed? = none) :
    kills ((sent, delivery) :: trail) = kills trail :=
  List.filter_cons_of_neg (by simp [h])

/-- What kills no jobs does not come to do so by redirects. -/
theorem Trail.kills_eq_nil (h : Trail hops sent trail) (hsent : sent.killed? = none) :
    kills trail = [] := by
  induction h with
  | stands => exact kills_cons_of_none hsent
  | stops => exact kills_cons_of_none hsent
  | follows _ _ _ ih =>
    rw [kills_cons_of_none hsent]
    apply ih
    rw [killed?_redirect, hsent, ite_self]

/-- A bare GET is redirected to another one. -/
theorem request_get (redirect : Redirect) (address : Url) :
    redirect.request (get address) = get redirect.address := by
  rw [Redirect.request]
  exact ite_self _

theorem Trail.eq_get {address : Url} (h : Trail hops (get address) trail) :
    ∀ e ∈ trail, ∃ address, e.1 = get address := by
  generalize hsent : get address = sent at h
  induction h generalizing address with
  | stands => exact List.forall_mem_singleton.mpr ⟨address, hsent.symm⟩
  | stops => exact List.forall_mem_singleton.mpr ⟨address, hsent.symm⟩
  | follows _ _ _ ih =>
    subst hsent
    exact List.forall_mem_cons.mpr ⟨⟨address, rfl⟩, ih (request_get _ address).symm⟩

/-- What is sent for a kill with this request of its own, if so many redirects are followed: first
come kills, each because the answer to the one before asks for it at this address, and all the same
but for the address; then come bare GETs. -/
structure KillTrail (hops : Nat) (own : OutgoingRequest) (trail : List Exchange) : Prop where
  first : ∃ delivery more, kills trail = (own, delivery) :: more
  length_le : trail.length ≤ hops + 1
  before_gets : ∃ gets, trail = kills trail ++ gets ∧ ∀ e ∈ gets, ∃ address, e.1 = get address
  repeated : (kills trail).IsChain fun e next => ∃ address,
    e.2.redirect? = some ⟨true, address⟩ ∧ canReach address = true ∧
      next.1 = { e.1 with address }
  /-- What is to be repeated is, until no more redirects are followed. -/
  last : ∀ e ∈ (kills trail).getLast?, e.2.isRepeating = true → (kills trail).length = hops + 1
  same : ∀ e ∈ kills trail, ∃ address, e.1 = { own with address }

theorem killTrail_once (hsent : sent.killed? = some ids) {gets : List Exchange}
    (hgets : ∀ e ∈ gets, ∃ address, e.1 = get address) (hlength : gets.length ≤ hops)
    (hlast : delivery.isRepeating = true → hops = 0) :
    KillTrail hops sent ((sent, delivery) :: gets) := by
  have hnone : kills gets = [] := by
    refine List.filter_eq_nil_iff.mpr fun e he => ?_
    obtain ⟨address, haddress⟩ := hgets e he
    rw [haddress, killed?_get]
    decide
  have hkills : kills ((sent, delivery) :: gets) = [(sent, delivery)] := by
    rw [kills_cons_of_some hsent, hnone]
  constructor
  · exact ⟨delivery, [], hkills⟩
  · exact Nat.succ_le_succ hlength
  · exact ⟨gets, by rw [hkills]; rfl, hgets⟩
  · rw [hkills]
    exact .singleton _
  · rw [hkills]
    rintro _ ⟨⟩ hrepeating
    rw [hlast hrepeating]
    rfl
  · rw [hkills]
    exact List.forall_mem_singleton.mpr ⟨sent.address, rfl⟩

theorem KillTrail.cons {address : Url} (hsent : sent.killed? = some ids)
    (hredirect : delivery.redirect? = some ⟨true, address⟩) (hreach : canReach address = true)
    (h : KillTrail hops { sent with address } trail) :
    KillTrail (hops + 1) sent ((sent, delivery) :: trail) := by
  obtain ⟨⟨delivery', more, hmore⟩, hlength, ⟨gets, hgets, hbare⟩, hrepeated, hlast, hsame⟩ := h
  have hkills : kills ((sent, delivery) :: trail) = (sent, delivery) :: kills trail :=
    kills_cons_of_some hsent
  constructor
  · exact ⟨delivery, _, hkills⟩
  · exact Nat.succ_le_succ hlength
  · exact ⟨gets, by rw [hkills, List.cons_append, ← hgets], hbare⟩
  · rw [hkills, hmore]
    rw [hmore] at hrepeated
    exact .cons_cons ⟨address, hredirect, hreach, rfl⟩ hrepeated
  · rw [hkills, hmore, List.getLast?_cons_cons, ← hmore]
    intro e he hrepeating
    rw [List.length_cons, hlast e he hrepeating]
  · rw [hkills]
    exact List.forall_mem_cons.mpr ⟨⟨sent.address, rfl⟩, hsame⟩

theorem Trail.killTrail (h : Trail hops sent trail) (hsent : sent.killed? = some ids) :
    KillTrail hops sent trail := by
  induction h with
  | stands hstands =>
    refine killTrail_once hsent (List.forall_mem_nil _) (Nat.zero_le _) fun hrepeating => ?_
    rw [Delivery.isRepeating, hstands] at hrepeating
    cases hrepeating
  | @stops hops sent delivery redirect hredirect hstop =>
    refine killTrail_once hsent (List.forall_mem_nil _) (Nat.zero_le _) fun hrepeating => ?_
    rw [Delivery.isRepeating, hredirect, Option.any_some, Bool.and_eq_true] at hrepeating
    exact hstop.resolve_right (Bool.not_eq_false _ ▸ hrepeating.2)
  | @follows hops sent delivery redirect trail hredirect hreach htrail ih =>
    obtain ⟨repeats, address⟩ := redirect
    cases repeats with
    | false =>
      obtain ⟨_, rest, hcons, hlength⟩ := htrail.eq_cons
      refine killTrail_once hsent htrail.eq_get ?_ fun hrepeating => ?_
      · rw [hcons]
        exact Nat.succ_le_succ hlength
      · rw [Delivery.isRepeating, hredirect] at hrepeating
        cases hrepeating
    | true => exact (ih hsent).cons hsent hredirect hreach

/-- A kill is sent once exactly if it is not to be repeated. -/
theorem KillTrail.once_iff (h : KillTrail (hops + 1) sent trail) :
    (kills trail).length = 1 ↔ ∀ e ∈ kills trail, e.2.isRepeating = false := by
  obtain ⟨delivery, more, hmore⟩ := h.first
  have hrepeated := h.repeated
  have hlast := h.last
  rw [hmore] at hrepeated hlast ⊢
  cases more with
  | nil =>
    refine iff_of_true rfl (List.forall_mem_singleton.mpr (Bool.eq_false_iff.mpr fun h => ?_))
    have hlength := hlast _ rfl h
    rw [List.length_singleton] at hlength
    omega
  | cons next more =>
    obtain ⟨⟨address, hredirect, hreach, -⟩, -⟩ := List.isChain_cons_cons.mp hrepeated
    refine iff_of_false (by simp) fun hall => ?_
    have hrepeating := hall _ List.mem_cons_self
    rw [Delivery.isRepeating, hredirect, Option.any_some, hreach] at hrepeating
    cases hrepeating

/-! ## What is sent -/

variable {c : SchedulerClient}

theorem Sends.kills_eq_nil {call : Call} (h : c.Sends call trail)
    (hcall : ∀ ids, call ≠ .killJobs ids) : kills trail = [] := by
  unfold Sends at h
  split at h
  · exact h.kills_eq_nil (c.killed?_eq_none hcall)
  · rw [h]
    rfl

theorem Sends.killTrail (h : c.Sends (.killJobs ids) trail) (hreach : c.isReachable = true) :
    KillTrail maxRedirects (c.request (.killJobs ids)) trail := by
  rw [Sends, if_pos hreach] at h
  exact h.killTrail (c.killed?_killJobs ids)

variable {confirmed : List (List String)} {trails : List (List Exchange)}

theorem length_le_of_sends (hreach : c.isReachable = true)
    (h : List.Forall₂ (fun ids trail => c.Sends (.killJobs ids) trail) confirmed trails) :
    confirmed.length ≤ (trails.flatMap kills).length := by
  induction h with
  | nil => exact Nat.le_refl 0
  | @cons ids trail confirmed trails hsends _ ih =>
    obtain ⟨delivery, more, hmore⟩ := (hsends.killTrail hreach).first
    rw [List.flatMap_cons, hmore, List.length_cons, List.length_append, List.length_cons]
    omega

theorem kills_once_of_reachable (hreach : c.isReachable = true)
    (h : List.Forall₂ (fun ids trail => c.Sends (.killJobs ids) trail) confirmed trails) :
    (trails.flatMap kills).map (·.1) = confirmed.map (fun ids => c.request (.killJobs ids)) ↔
      ∀ e ∈ trails.flatMap kills, e.2.isRepeating = false := by
  induction h with
  | nil => exact iff_of_true rfl (List.forall_mem_nil _)
  | @cons ids trail confirmed trails hsends hrest ih =>
    have htrail := hsends.killTrail hreach
    obtain ⟨delivery, more, hmore⟩ := htrail.first
    rw [List.flatMap_cons, List.forall_mem_append, ← htrail.once_iff, hmore, List.cons_append,
      List.map_cons, List.map_cons, List.cons_inj_right, List.length_cons]
    constructor
    · intro hsame
      -- There are kills enough behind, so none is left to be the repetition of this one.
      have hlength := congrArg List.length hsame
      rw [List.length_map, List.length_map, List.length_append] at hlength
      have hle := length_le_of_sends hreach hrest
      have hnone : more = [] := List.length_eq_zero_iff.mp (by omega)
      rw [hnone, List.nil_append] at hsame
      exact ⟨by rw [hnone]; rfl, ih.mp hsame⟩
    · rintro ⟨honce, hall⟩
      have hnone : more = [] := List.length_eq_zero_iff.mp (Nat.succ.inj honce)
      rw [hnone, List.nil_append]
      exact ih.mpr hall

theorem kills_of_unreachable (hreach : ¬c.isReachable = true)
    (h : List.Forall₂ (fun ids trail => c.Sends (.killJobs ids) trail) confirmed trails) :
    trails.flatMap kills = [] := by
  induction h with
  | nil => rfl
  | cons hsends _ ih =>
    rw [Sends, if_neg hreach] at hsends
    rw [List.flatMap_cons, hsends, ih]
    rfl

/-- Kills are sent one for one exactly if none is to be repeated. -/
theorem kills_once_iff
    (h : List.Forall₂ (fun ids trail => c.Sends (.killJobs ids) trail) confirmed trails) :
    (trails.flatMap kills).map (·.1) = (if c.isReachable then
        confirmed.map (fun ids => c.request (.killJobs ids)) else []) ↔
      ∀ e ∈ trails.flatMap kills, e.2.isRepeating = false := by
  by_cases hreach : c.isReachable = true
  · rw [if_pos hreach]
    exact kills_once_of_reachable hreach h
  · rw [if_neg hreach, kills_of_unreachable hreach h]
    exact iff_of_true rfl (List.forall_mem_nil _)

end SchedulerClient

end JobDashboard
