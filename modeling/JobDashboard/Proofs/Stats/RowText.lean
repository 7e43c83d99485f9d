import JobDashboard.Proofs.Constant
import JobDashboard.Proofs.Json.Documents
import JobDashboard.Proofs.Json.Records
import JobDashboard.Stats.Row
import Mathlib.Algebra.Group.Int.Defs

/-!
# Rows are read as they were written

A timestamp is written as an integer and read as a binary64 number, so not every row comes back. But
the rows that were read do: their timestamps are integers that a binary64 number holds, or the
greatest of 64 bits, which the number nearest to it is cut down to again; and their measures are
finite, so they are written as numbers that are read back word for word.
-/
namespace JobDashboard

open Json (Reader Value Wire)

/-- A constant is written as its name, which is read as the constant. -/
theorem Constant.read_write {α : Type} [Constant α] [LawfulConstant α] (a : α) :
    Constant.read (Constant.write a).value = .ok a := by
  rw [Constant.write, Wire.value, Constant.read, Reader.constant, Json.text_content,
    Outcome.ok_bind, ofName?_name]
  rfl

namespace Usage

/-- The seconds are numbers that can be written. -/
structure IsFinite (u : Usage) : Prop where
  vcpuSeconds : u.vcpuSeconds.isFinite = true
  memorySeconds : u.memorySeconds.isFinite = true
  instanceSeconds : u.instanceSeconds.isFinite = true

theorem isFinite_of_binary64 {v : Value} {x : Binary64} (h : Reader.binary64 v = .ok x) :
    x.isFinite = true := by
  cases v with
  | number n =>
    rw [Reader.binary64] at h
    split at h
    · next hfinite =>
      obtain rfl := Except.ok.inj h
      exact hfinite
    · cases h
  | _ => cases h

theorem isFinite_of_readMembers {members : List (Bytes × Value)} {seen : List String} {u : Usage}
    (h : Json.readMembers fields members [] {} = .ok (seen, u)) : u.IsFinite := by
  refine Json.readMembers_induction (P := IsFinite) ?_ h ⟨rfl, rfl, rfl⟩
  intro m _ field hfield _ s s' hread hs
  obtain rfl | rfl | rfl | rfl := by simpa [fields] using hfield
  all_goals obtain ⟨_, hvalue, rfl⟩ := Outcome.map_eq_ok_iff.mp hread
  · exact ⟨isFinite_of_binary64 hvalue, hs.memorySeconds, hs.instanceSeconds⟩
  · exact ⟨hs.vcpuSeconds, isFinite_of_binary64 hvalue, hs.instanceSeconds⟩
  · exact ⟨hs.vcpuSeconds, hs.memorySeconds, isFinite_of_binary64 hvalue⟩
  · exact ⟨hs.vcpuSeconds, hs.memorySeconds, hs.instanceSeconds⟩

/-- Measures that are written are read back. -/
theorem readMembers_members {u : Usage} (hu : u.IsFinite) :
    Json.readMembers fields (Wire.memberValues u.members) [] {} =
      .ok (["job_count", "instance_seconds", "memory_seconds", "vcpu_seconds"], u) := by
  refine Json.readMembers_cons_iff.mpr ⟨"vcpu_seconds", Json.text_content _, .inr ⟨_, _, rfl, rfl,
    Outcome.map_eq_ok_iff.mpr ⟨_, Json.binary64_float hu.vcpuSeconds, rfl⟩, ?_⟩⟩
  refine Json.readMembers_cons_iff.mpr ⟨"memory_seconds", Json.text_content _, .inr ⟨_, _, rfl, rfl,
    Outcome.map_eq_ok_iff.mpr ⟨_, Json.binary64_float hu.memorySeconds, rfl⟩, ?_⟩⟩
  refine Json.readMembers_cons_iff.mpr ⟨"instance_seconds", Json.text_content _, .inr ⟨_, _, rfl,
    rfl, Outcome.map_eq_ok_iff.mpr ⟨_, Json.binary64_float hu.instanceSeconds, rfl⟩, ?_⟩⟩
  refine Json.readMembers_cons_iff.mpr ⟨"job_count", Json.text_content _, .inr ⟨_, _, rfl, rfl,
    Outcome.map_eq_ok_iff.mpr ⟨_, Json.uint64_int _, rfl⟩, ?_⟩⟩
  rfl

end Usage

namespace UsageRow

/-! ## Timestamps -/

theorem clamped_cases (n : Int) :
    n ≤ -2 ^ 63 ∧ clamped n = -2 ^ 63 ∨ 2 ^ 63 - 1 ≤ n ∧ clamped n = 2 ^ 63 - 1 ∨
      -2 ^ 63 < n ∧ n < 2 ^ 63 - 1 ∧ clamped n = n := by
  have hlow : Int64.minValue.toInt = -2 ^ 63 := rfl
  have hhigh : Int64.maxValue.toInt = 2 ^ 63 - 1 := rfl
  unfold clamped
  omega

/-- The timestamps that are read: the integers that a binary64 number holds, and the greatest, which
all beyond are cut down to. -/
def IsTimestamp (t : Int64) : Prop :=
  t = Int64.maxValue ∨ (Binary64.ofInt t.toInt).truncate = t.toInt

instance : DecidablePred IsTimestamp := fun _ => inferInstanceAs (Decidable (_ ∨ _))

theorem readTimestamp_eq_ok_iff {v : Value} {t : Int64} :
    readTimestamp v = .ok t ↔ ∃ x, Reader.binary64 v = .ok x ∧ t.toInt = clamped x.truncate := by
  rw [readTimestamp, Outcome.bind_eq_ok_iff]
  refine exists_congr fun x => and_congr_right fun _ => ?_
  have hheld : (Int64.ofInt (clamped x.truncate)).toInt = clamped x.truncate := by
    have hcases := clamped_cases x.truncate
    exact Int64.toInt_ofInt_of_le (by omega) (by omega)
  rw [Outcome.pure_eq, Except.ok.injEq, ← Int64.toInt_inj, hheld, eq_comm]

theorem isTimestamp_of_readTimestamp {v : Value} {t : Int64} (h : readTimestamp v = .ok t) :
    IsTimestamp t := by
  obtain ⟨x, -, ht⟩ := readTimestamp_eq_ok_iff.mp h
  obtain ⟨-, hleast⟩ | ⟨-, hgreatest⟩ | ⟨hlow, hhigh, hsame⟩ := clamped_cases x.truncate
  · right
    rw [ht, hleast]
    exact Binary64.truncate_ofInt_of_dvd (t := 11) (by decide) (by decide) (by decide)
  · left
    rw [← Int64.toInt_inj, ht, hgreatest]
    rfl
  · right
    rw [ht, hsame]
    exact Binary64.truncate_ofInt_truncate (by omega)

/-- The number nearest to the greatest timestamp lies beyond it, and is cut down to it again. -/
theorem clamped_truncate_ofInt {t : Int64} (h : IsTimestamp t) :
    clamped (Binary64.ofInt t.toInt).truncate = t.toInt := by
  obtain rfl | hheld := h
  · decide +kernel
  · have hlow : -2 ^ 63 ≤ t.toInt := t.le_toInt
    have hhigh : t.toInt < 2 ^ 63 := t.toInt_lt
    have hcases := clamped_cases t.toInt
    rw [hheld]
    omega

/-- Exactly these timestamps are read as they were written. -/
theorem readTimestamp_int_iff {t : Int64} :
    readTimestamp (Wire.int t.toInt).value = .ok t ↔ IsTimestamp t := by
  refine ⟨isTimestamp_of_readTimestamp, fun h => readTimestamp_eq_ok_iff.mpr ?_⟩
  have hlow : -2 ^ 63 ≤ t.toInt := t.le_toInt
  have hhigh : t.toInt < 2 ^ 63 := t.toInt_lt
  exact ⟨_, Json.binary64_int (by omega), (clamped_truncate_ofInt h).symm⟩

example : ¬IsTimestamp 9007199254740993 := by decide +kernel

theorem isTimestamp_of_readMembers {members : List (Bytes × Value)} {seen : List String}
    {r : UsageRow} (h : Json.readMembers fields members [] {} = .ok (seen, r)) :
    IsTimestamp r.timestamp := by
  refine Json.readMembers_induction (P := fun s => IsTimestamp s.timestamp) ?_ h
    (.inr (by decide +kernel))
  intro m _ field hfield _ s s' hread hs
  obtain rfl | rfl | rfl | rfl := by simpa [fields] using hfield
  · obtain ⟨t, ht, rfl⟩ := Outcome.map_eq_ok_iff.mp hread
    exact isTimestamp_of_readTimestamp ht
  all_goals
    obtain ⟨_, -, rfl⟩ := Outcome.map_eq_ok_iff.mp hread
    exact hs

/-! ## Rows -/

/-- The rows that are read. -/
structure IsReadable (r : UsageRow) : Prop where
  timestamp : IsTimestamp r.timestamp
  usage : r.usage.IsFinite

theorem isReadable_of_readWithin {depth : Nat} {v : Value} {r : UsageRow}
    (h : readWithin depth v = .ok r) : r.IsReadable := by
  cases v with
  | object members complete =>
    obtain ⟨⟨row, others⟩, hrow, h⟩ := Outcome.bind_eq_ok_iff.mp h
    obtain ⟨⟨seen, usage⟩, husage, h⟩ := Outcome.bind_eq_ok_iff.mp h
    obtain rfl := Except.ok.inj h
    obtain ⟨_, hmembers, -⟩ := Json.readOpen_eq_ok_iff.mp hrow
    have htimestamp := isTimestamp_of_readMembers (Json.readMembers_of_readOpenMembers hmembers)
    exact ⟨htimestamp, Usage.isFinite_of_readMembers husage⟩
  | _ => cases h

/-- The measures of a written row are the members that the row itself does not know. -/
theorem readOpen_members {r : UsageRow} (hr : r.IsReadable) (depth : Nat) :
    Json.readOpen fields depth (Wire.memberValues r.members) true {} =
      .ok ({ r with usage := {} }, Wire.memberValues r.usage.members) := by
  have hcount : (r.usage.jobCount.toNat : Int).natAbs < 2 ^ 64 := r.usage.jobCount.toNat_lt
  refine Json.readOpen_eq_ok_iff.mpr
    ⟨["interval", "status", "job_queue", "timestamp"], ?_, rfl, by decide⟩
  -- One member after the other: a field of the row reads it, or it is a measure and kept.
  refine Json.readOpenMembers_cons_iff.mpr ⟨"timestamp", Json.text_content _, .inr ⟨_, _, rfl, rfl,
    Outcome.map_eq_ok_iff.mpr ⟨_, readTimestamp_int_iff.mpr hr.timestamp, rfl⟩, ?_⟩⟩
  refine Json.readOpenMembers_cons_iff.mpr ⟨"job_queue", Json.text_content _, .inr ⟨_, _, rfl, rfl,
    Outcome.map_eq_ok_iff.mpr ⟨_, Json.text_content _, rfl⟩, ?_⟩⟩
  refine Json.readOpenMembers_cons_iff.mpr ⟨"status", Json.text_content _, .inr ⟨_, _, rfl, rfl,
    Outcome.map_eq_ok_iff.mpr ⟨_, Constant.read_write _, rfl⟩, ?_⟩⟩
  refine Json.readOpenMembers_cons_iff.mpr ⟨"vcpu_seconds", Json.text_content _, .inl ⟨rfl,
    Json.storable_float hr.usage.vcpuSeconds _, _, rfl, ?_⟩⟩
  refine Json.readOpenMembers_cons_iff.mpr ⟨"memory_seconds", Json.text_content _, .inl ⟨rfl,
    Json.storable_float hr.usage.memorySeconds _, _, rfl, ?_⟩⟩
  refine Json.readOpenMembers_cons_iff.mpr ⟨"instance_seconds", Json.text_content _, .inl ⟨rfl,
    Json.storable_float hr.usage.instanceSeconds _, _, rfl, ?_⟩⟩
  refine Json.readOpenMembers_cons_iff.mpr ⟨"job_count", Json.text_content _, .inl ⟨rfl,
    Json.storable_int hcount _, _, rfl, ?_⟩⟩
  refine Json.readOpenMembers_cons_iff.mpr ⟨"interval", Json.text_content _, .inr ⟨_, _, rfl, rfl,
    Outcome.map_eq_ok_iff.mpr ⟨_, Json.int64_int _, rfl⟩, ?_⟩⟩
  rfl

/-- Exactly the readable rows are read as they were written. -/
theorem readWithin_write_iff {depth : Nat} {r : UsageRow} :
    readWithin depth r.write.value = .ok r ↔ r.IsReadable := by
  refine ⟨isReadable_of_readWithin, fun hr => ?_⟩
  have hrow := readOpen_members hr (Json.depthLimit - depth)
  have husage := Usage.readMembers_members hr.usage
  rw [write, Wire.value, readWithin, hrow, Outcome.ok_bind]
  show Json.readMembers Usage.fields (Wire.memberValues r.usage.members) [] {} >>= _ = _
  rw [husage]
  rfl

/-- Whatever text was read as a row, its timestamp is held exactly or the greatest, its seconds are
finite, and the text that is written for it is read as the same row, its measures word for word. -/
theorem read_write_of_read {bs : Bytes} {r : UsageRow} (h : read.document bs = .ok r) :
    r.IsReadable ∧ read.document (Utf8.encode r.write.render) = .ok r := by
  obtain ⟨row, hread, h⟩ := Outcome.bind_eq_ok_iff.mp h
  obtain rfl : row = r := by
    split at h
    · exact Except.ok.inj h
    · cases h
  have hrow : row.IsReadable := isReadable_of_readWithin hread
  have hwritten : read row.write.value = .ok row := readWithin_write_iff.mpr hrow
  refine ⟨hrow, ?_⟩
  rw [Reader.document, Json.Document.read_render]
  simp [hwritten]

/-- Members in another order, one of them unknown and one missing, and a timestamp beyond all
integers of 64 bits. -/
def lateText : Bytes :=
  Utf8.encode "\x7b\"interval\":-9,\"job_count\":18446744073709551615," ++
  Utf8.encode "\"from\":[\x7b\"a\":1.5e3\x7d,null],\"memory_seconds\":-3e-324," ++
  Utf8.encode "\"status\":\x7b\"RUNNING\":null\x7d,\"job_queue\":\"a\\u0000\"," ++
  Utf8.encode "\"instance_seconds\":36893488147419103233,\"timestamp\":1E+300\x7d"

def lateRow : UsageRow where
  timestamp := Int64.maxValue
  jobQueue := "a\x00"
  status := .running
  usage :=
    { vcpuSeconds := .zero
      memorySeconds := ⟨0x8000000000000001⟩
      instanceSeconds := ⟨0x4400000000000000⟩
      jobCount := 18446744073709551615 }
  interval := -9

theorem read_write_of_read_late :
    read.document lateText = .ok lateRow ∧ lateRow.IsReadable ∧
      read.document (Utf8.encode lateRow.write.render) = .ok lateRow := by
  have hread : read.document lateText = .ok lateRow := by decide +kernel
  exact ⟨hread, read_write_of_read hread⟩

end UsageRow

end JobDashboard
