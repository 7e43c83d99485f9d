import JobDashboard.Proofs.Job.Corruption
import JobDashboard.Proofs.Json.Records
import JobDashboard.Scheduler.Call
import Mathlib.Data.List.Forall2

/-!
# Payloads with other timestamps

The timestamps of a job are read as texts, so any text that is put in place of one is read, and so is
null. Anything else is refused, and with it the whole page. Where the page is read, its jobs differ
from what they were in timestamps and durations alone: all other members of a job object are read
without regard to them.
-/
namespace JobDashboard

open Json (Document Reader RecordField Value readMembers readMembers_cons_iff
  record_object_eq_ok_iff text)

namespace TimestampField

/-- The name of a timestamp in a job object. -/
def key : TimestampField → String
  | .createdAt => "created_at"
  | .runStartTime => "run_start_time"
  | .stoppedAt => "stopped_at"
  | .lastUpdated => "last_updated"

end TimestampField

/-- Another job is this one but for its timestamps and durations. -/
def Job.Retimed (job job' : Job) : Prop := job' = { job with
  createdAt := job'.createdAt
  runStartTime := job'.runStartTime
  stoppedAt := job'.stoppedAt
  lastUpdated := job'.lastUpdated
  runtime := job'.runtime
  totalElapsedTime := job'.totalElapsedTime }

namespace JobRecord

/-- Another record is this one but for timestamps. -/
def Retimed (r r' : JobRecord) : Prop := r' = r.withTimestamps r'.timestamp

def setTimestamp (f : TimestampField) (s : Option String) (r : JobRecord) : JobRecord :=
  match f with
  | .createdAt => { r with createdAt := s }
  | .runStartTime => { r with runStartTime := s }
  | .stoppedAt => { r with stoppedAt := s }
  | .lastUpdated => { r with lastUpdated := s }

variable {r r' : JobRecord} {field : RecordField JobRecord}

theorem retimed_withTimestamps (r : JobRecord) (texts : TimestampField → Option String) :
    r.Retimed (r.withTimestamps texts) := by
  rw [Retimed, funext (timestamp_withTimestamps texts)]

theorem Retimed.refl (r : JobRecord) : r.Retimed r := rfl

theorem Retimed.toJob (h : r.Retimed r') (now : Instant) :
    (r.toJob now).Retimed (r'.toJob now) := by
  rw [Retimed] at h
  rw [h]
  rfl

theorem Retimed.setTimestamp (h : r.Retimed r') (f : TimestampField) (s s' : Option String) :
    (r.setTimestamp f s).Retimed (r'.setTimestamp f s') := by
  rw [Retimed] at h
  rw [h]
  cases f <;> rfl

/-! ## The fields of a record -/

/-- A field that neither is a timestamp nor looks at any. -/
structure Plain (field : RecordField JobRecord) : Prop where
  name_ne : ∀ f : TimestampField, field.name ≠ f.key
  read_eq : ∀ v r texts,
    field.read v (r.withTimestamps texts) = (·.withTimestamps texts) <$> field.read v r

theorem plain_field {α : Type} {name : String} {required : Bool} {read : Reader α}
    {set : α → JobRecord → JobRecord} (hname : ∀ f : TimestampField, name ≠ f.key)
    (hset : ∀ a r texts, set a (withTimestamps r texts) = (set a r).withTimestamps texts) :
    Plain ⟨name, required, fun v r => (set · r) <$> read v⟩ := by
  refine ⟨hname, fun v r texts => ?_⟩
  cases h : read v with
  | error e => simp [h, Functor.map, Except.map]
  | ok a => simp [h, Functor.map, Except.map, hset]

/-- Every field is one of the timestamps or does without them. -/
theorem timestamp_or_plain (h : field ∈ fields) :
    (∃ f : TimestampField, field = .defaulted f.key optionalText (setTimestamp f)) ∨
      Plain field := by
  simp only [fields, List.mem_cons, List.not_mem_nil, or_false] at h
  rcases h with rfl | rfl | rfl | rfl | rfl | rfl | rfl | rfl | rfl | rfl | rfl | rfl | rfl | rfl |
    rfl | rfl | rfl | rfl | rfl | rfl | rfl | rfl | rfl
  all_goals try exact .inr (plain_field (fun f => by cases f <;> decide) fun _ _ _ => rfl)
  · exact .inl ⟨.lastUpdated, rfl⟩
  · exact .inl ⟨.createdAt, rfl⟩
  · exact .inl ⟨.stoppedAt, rfl⟩
  · exact .inl ⟨.runStartTime, rfl⟩

/-! ## Job objects -/

/-- What a timestamp may be. -/
def IsNullOrText (v : Value) : Prop := v = .null ∨ ∃ raw s, v = .string raw ∧ text raw = .ok s

theorem exists_optionalText_iff {v : Value} :
    (∃ s, optionalText v = .ok s) ↔ IsNullOrText v := by
  constructor
  · rintro ⟨s, h⟩
    unfold optionalText Reader.optional at h
    split at h
    · exact .inl rfl
    · unfold Reader.string at h
      split at h
      · next raw _ =>
        obtain ⟨s', hs', -⟩ := Outcome.map_eq_ok_iff.mp h
        exact .inr ⟨raw, s', rfl, hs'⟩
      · cases h
  · rintro (rfl | ⟨raw, s, rfl, hs⟩)
    · exact ⟨none, rfl⟩
    · exact ⟨some s, Outcome.map_eq_ok_iff.mpr ⟨s, hs, rfl⟩⟩

/-- A member whose value may be another if it is a timestamp. -/
def MemberRetimed (m m' : Bytes × Value) : Prop :=
  m'.1 = m.1 ∧ (m'.2 = m.2 ∨ ∃ f : TimestampField, text m.1 = .ok f.key)

/-- Another value is this one but for the timestamps of a job object. -/
inductive ValueRetimed : Value → Value → Prop
  | object {members members' : List (Bytes × Value)} (complete : Bool)
      (h : List.Forall₂ MemberRetimed members members') :
    ValueRetimed (.object members complete) (.object members' complete)
  | same (v : Value) : ValueRetimed v v

/-- The timestamps of a job object are null or text. -/
def TimestampsRead : Value → Prop
  | .object members _ =>
    ∀ m ∈ members, ∀ f : TimestampField, text m.1 = .ok f.key → IsNullOrText m.2
  | _ => True

/-- A field reads another value in place of a timestamp, and a record with other timestamps, as it
read these. -/
theorem read_retimed {v v' : Value} {t : JobRecord} (hfield : field ∈ fields)
    (hvalue : v' = v ∨ ∃ f : TimestampField, field.name = f.key)
    (htext : ∀ f : TimestampField, field.name = f.key → IsNullOrText v') (h : r.Retimed r')
    (hread : field.read v r = .ok t) : ∃ t', field.read v' r' = .ok t' ∧ t.Retimed t' := by
  obtain ⟨f, rfl⟩ | hplain := timestamp_or_plain hfield
  · obtain ⟨s', hs'⟩ := exists_optionalText_iff.mpr (htext f rfl)
    obtain ⟨s, hs, rfl⟩ := Outcome.map_eq_ok_iff.mp hread
    exact ⟨_, Outcome.map_eq_ok_iff.mpr ⟨s', hs', rfl⟩, h.setTimestamp f s s'⟩
  · obtain rfl : v' = v := hvalue.resolve_right fun ⟨f, hf⟩ => hplain.name_ne f hf
    refine ⟨t.withTimestamps r'.timestamp, ?_, retimed_withTimestamps t _⟩
    rw [Retimed] at h
    rw [h, hplain.read_eq, hread]
    rfl

/-- The members of an object are read alike where timestamps are replaced by null or text. -/
theorem readMembers_retimed {members members' : List (Bytes × Value)}
    (hmembers : List.Forall₂ MemberRetimed members members')
    (htext : ∀ m ∈ members', ∀ f : TimestampField, text m.1 = .ok f.key → IsNullOrText m.2)
    {seen seen' : List String} {t : JobRecord} (h : r.Retimed r')
    (hread : readMembers fields members seen r = .ok (seen', t)) :
    ∃ t', readMembers fields members' seen r' = .ok (seen', t') ∧ t.Retimed t' := by
  induction hmembers generalizing seen r r' with
  | nil =>
    obtain ⟨rfl, rfl⟩ := Prod.mk.inj (Except.ok.inj hread)
    exact ⟨r', rfl, h⟩
  | @cons m m' members members' hm _ ih =>
    obtain ⟨hkey, hvalue⟩ := hm
    obtain ⟨hfirst, hrest⟩ := List.forall_mem_cons.mp htext
    obtain ⟨name, hname, hread⟩ := readMembers_cons_iff.mp hread
    have hname' : text m'.1 = .ok name := by rw [hkey, hname]
    obtain ⟨hunknown, hread⟩ | ⟨field, next, hfound, hnew, hnext, hread⟩ := hread
    · obtain ⟨t', ht', hlast⟩ := ih hrest h hread
      exact ⟨t', readMembers_cons_iff.mpr ⟨name, hname', .inl ⟨hunknown, ht'⟩⟩, hlast⟩
    · obtain ⟨hfield, hsame⟩ := RecordField.of_find? hfound
      have hreplaced : m'.2 = m.2 ∨ ∃ f : TimestampField, field.name = f.key :=
        hvalue.imp_right fun ⟨f, hf⟩ => ⟨f, hsame.trans (Except.ok.inj (hname.symm.trans hf))⟩
      have hnull : ∀ f : TimestampField, field.name = f.key → IsNullOrText m'.2 :=
        fun f hf => hfirst f (by rw [hname', ← hsame, hf])
      obtain ⟨next', hnext', hretimed⟩ := read_retimed hfield hreplaced hnull h hnext
      obtain ⟨t', ht', hlast⟩ := ih hrest hretimed hread
      exact ⟨t', readMembers_cons_iff.mpr ⟨name, hname',
        .inr ⟨field, next', hfound, hnew, hnext', ht'⟩⟩, hlast⟩

/-- Every timestamp has a field that reads it. -/
theorem exists_find?_key (f : TimestampField) :
    ∃ field, fields.find? (·.name == f.key) = some field := by
  cases f <;> exact ⟨_, rfl⟩

theorem isNullOrText_of_read {f : TimestampField} (hfield : field ∈ fields)
    (hname : field.name = f.key) {v : Value} {t : JobRecord} (hread : field.read v r = .ok t) :
    IsNullOrText v := by
  obtain ⟨f', rfl⟩ | hplain := timestamp_or_plain hfield
  · obtain ⟨s, hs, -⟩ := Outcome.map_eq_ok_iff.mp hread
    exact exists_optionalText_iff.mp ⟨s, hs⟩
  · exact absurd hname (hplain.name_ne f)

theorem isNullOrText_of_readMembers {members : List (Bytes × Value)} {seen seen' : List String}
    {t : JobRecord} (hread : readMembers fields members seen r = .ok (seen', t)) :
    ∀ m ∈ members, ∀ f : TimestampField, text m.1 = .ok f.key → IsNullOrText m.2 := by
  induction members generalizing seen r with
  | nil => exact nofun
  | cons m members ih =>
    obtain ⟨name, hname, hread⟩ := readMembers_cons_iff.mp hread
    have hkey : ∀ f : TimestampField, text m.1 = .ok f.key → name = f.key :=
      fun f hf => Except.ok.inj (hname.symm.trans hf)
    obtain ⟨hunknown, hread⟩ | ⟨field, next, hfound, -, hnext, hread⟩ := hread
    · refine List.forall_mem_cons.mpr ⟨fun f hf => ?_, ih hread⟩
      obtain ⟨field, hfound⟩ := exists_find?_key f
      rw [← hkey f hf, hunknown] at hfound
      cases hfound
    · obtain ⟨hfield, hsame⟩ := RecordField.of_find? hfound
      refine List.forall_mem_cons.mpr ⟨fun f hf => ?_, ih hread⟩
      exact isNullOrText_of_read hfield (hsame.trans (hkey f hf)) hnext

/-! ## Jobs -/

theorem timestampsRead_of_read {v : Value} (hread : read v = .ok r) : TimestampsRead v := by
  cases v with
  | object members complete =>
    obtain ⟨seen, hmembers, -⟩ := record_object_eq_ok_iff.mp hread
    exact isNullOrText_of_readMembers hmembers
  | _ => trivial

theorem exists_read_of_retimed {v v' : Value} (h : ValueRetimed v v') (htext : TimestampsRead v')
    (hread : read v = .ok r) : ∃ r', read v' = .ok r' ∧ r.Retimed r' := by
  cases h with
  | object complete hmembers =>
    obtain ⟨seen, hread, hcomplete, hrequired⟩ := record_object_eq_ok_iff.mp hread
    obtain ⟨r', hread', hretimed⟩ := readMembers_retimed hmembers htext (.refl {}) hread
    exact ⟨r', record_object_eq_ok_iff.mpr ⟨seen, hread', hcomplete, hrequired⟩, hretimed⟩
  | same v => exact ⟨r, hread, .refl r⟩

/-! ## Pages of jobs -/

theorem exists_mapM_of_retimed {items items' : List Value} {records : List JobRecord}
    (hitems : List.Forall₂ ValueRetimed items items') (htext : ∀ v ∈ items', TimestampsRead v)
    (hread : items.mapM read = .ok records) :
    ∃ records', items'.mapM read = .ok records' ∧ List.Forall₂ Retimed records records' := by
  have hrecords := Outcome.mapM_eq_ok_iff.mp hread
  clear hread
  simp only [Outcome.mapM_eq_ok_iff]
  induction hitems generalizing records with
  | nil =>
    cases hrecords
    exact ⟨[], .nil, .nil⟩
  | cons hitem _ ih =>
    cases hrecords with
    | cons hr hrecords =>
      obtain ⟨hfirst, hrest⟩ := List.forall_mem_cons.mp htext
      obtain ⟨r', hr', hretimed⟩ := exists_read_of_retimed hitem hfirst hr
      obtain ⟨records', hrecords', hall⟩ := ih hrest hrecords
      exact ⟨r' :: records', .cons hr' hrecords', .cons hretimed hall⟩

theorem timestampsRead_of_mapM {items : List Value} {records : List JobRecord}
    (hread : items.mapM read = .ok records) : ∀ v ∈ items, TimestampsRead v := by
  intro v hv
  obtain ⟨r, hr⟩ := Outcome.exists_of_mapM hread v hv
  exact timestampsRead_of_read hr

/-- The payload of a page is read item by item. -/
theorem read?_listJobs_iff {bs : Bytes} {items : List Value} {records : List JobRecord}
    (query : JobListQuery) (hbs : Document.read bs = ⟨.array items true, true⟩) :
    Call.read? bs (.listJobs query) = some records ↔ items.mapM read = .ok records := by
  rw [Call.read?, Outcome.toOption_eq_some_iff, Reader.document, hbs, Reader.list]
  cases items.mapM read <;> exact Iff.rfl

/-- Put any values in place of timestamps in the job objects of a page that is read. The page is
still read exactly if every timestamp in it is null or text. Then it has the same jobs in the same
order, but for timestamps and durations, and a job object that was left alone still gives the same
record. -/
theorem listJobs_retimed {bs bs' : Bytes} {items items' : List Value} {records : List JobRecord}
    (query : JobListQuery) (hbs : Document.read bs = ⟨.array items true, true⟩)
    (hbs' : Document.read bs' = ⟨.array items' true, true⟩)
    (hitems : List.Forall₂ ValueRetimed items items')
    (hread : Call.read? bs (.listJobs query) = some records) :
    ((∃ records', Call.read? bs' (.listJobs query) = some records') ↔
      ∀ v ∈ items', TimestampsRead v) ∧
    ∀ records', Call.read? bs' (.listJobs query) = some records' →
      (∀ now, List.Forall₂ Job.Retimed (records.map (·.toJob now))
        (records'.map (·.toJob now))) ∧
      ∀ i : Nat, items'[i]? = items[i]? → records'[i]? = records[i]? := by
  rw [read?_listJobs_iff query hbs] at hread
  simp only [read?_listJobs_iff query hbs']
  have hretimed := fun htext => exists_mapM_of_retimed hitems htext hread
  refine ⟨⟨fun ⟨_, hread'⟩ => timestampsRead_of_mapM hread', fun htext => ?_⟩,
    fun records' hread' => ⟨fun now => ?_, fun i hsame => ?_⟩⟩
  · obtain ⟨records', hread', -⟩ := hretimed htext
    exact ⟨records', hread'⟩
  · obtain ⟨_, hsame, hall⟩ := hretimed (timestampsRead_of_mapM hread')
    obtain rfl := Except.ok.inj (hread'.symm.trans hsame)
    rw [List.forall₂_map_left_iff, List.forall₂_map_right_iff]
    exact hall.imp fun _ _ h => h.toJob now
  · rw [Outcome.getElem?_of_mapM hread', Outcome.getElem?_of_mapM hread, hsame]

/-- The payload of a running job with this time of creation and of a job that failed. -/
def createdPayload (created : String) : Bytes :=
  Utf8.encode "[\x7b\"id\":\"a\",\"status\":\"RUNNING\",\"created_at\":" ++
    Utf8.encode created ++ Utf8.encode "\x7d,\x7b\"id\":\"b\",\"status\":\"FAILED\"\x7d]"

def createdItems (created : Value) : List Value :=
  [.object [(Utf8.encode "id", .string (Utf8.encode "a")),
    (Utf8.encode "status", .string (Utf8.encode "RUNNING")),
    (Utf8.encode "created_at", created)] true,
   .object [(Utf8.encode "id", .string (Utf8.encode "b")),
    (Utf8.encode "status", .string (Utf8.encode "FAILED"))] true]

theorem retimed_createdItems (created created' : Value) :
    List.Forall₂ ValueRetimed (createdItems created) (createdItems created') :=
  .cons (.object true (.cons ⟨rfl, .inl rfl⟩ (.cons ⟨rfl, .inl rfl⟩
    (.cons ⟨rfl, .inr ⟨.createdAt, rfl⟩⟩ .nil)))) (.cons (.same _) .nil)

/-- A text that is no date leaves the page as it was, but for what the text stands for. -/
theorem listJobs_retimed_yesterday :
    let query : JobListQuery := ⟨"", 0, none, none, .startTime, .descending⟩
    let bs := createdPayload "\"2024-03-01T00:00:00Z\""
    let bs' := createdPayload "\"yesterday\""
    ∃ records records', Call.read? bs (.listJobs query) = some records ∧
      Call.read? bs' (.listJobs query) = some records' ∧ records'[1]? = records[1]? ∧
      (∀ now, List.Forall₂ Job.Retimed (records.map (·.toJob now))
        (records'.map (·.toJob now))) := by
  intro query bs bs'
  have hbs : Document.read bs =
      ⟨.array (createdItems (.string (Utf8.encode "2024-03-01T00:00:00Z"))) true, true⟩ := rfl
  have hbs' : Document.read bs' =
      ⟨.array (createdItems (.string (Utf8.encode "yesterday"))) true, true⟩ := rfl
  obtain ⟨records, hread⟩ : ∃ records, Call.read? bs (.listJobs query) = some records := ⟨_, rfl⟩
  obtain ⟨records', hread'⟩ : ∃ records', Call.read? bs' (.listJobs query) = some records' :=
    ⟨_, rfl⟩
  obtain ⟨-, hretimed⟩ := listJobs_retimed query hbs hbs' (retimed_createdItems _ _) hread
  obtain ⟨hjobs, hsame⟩ := hretimed records' hread'
  exact ⟨records, records', hread, hread', hsame 1 rfl, hjobs⟩

/-- A number is no text, so one in place of a timestamp costs the page all its jobs. -/
theorem listJobs_refused_number :
    let query : JobListQuery := ⟨"", 0, none, none, .startTime, .descending⟩
    let bs := createdPayload "\"2024-03-01T00:00:00Z\""
    let bs' := createdPayload "1709251200"
    ∃ items items', Document.read bs = ⟨.array items true, true⟩ ∧
      Document.read bs' = ⟨.array items' true, true⟩ ∧ List.Forall₂ ValueRetimed items items' ∧
      (Call.read? bs (.listJobs query)).isSome = true ∧ Call.read? bs' (.listJobs query) = none :=
  ⟨_, _, rfl, rfl, retimed_createdItems _ _, rfl, rfl⟩

end JobRecord

end JobDashboard
