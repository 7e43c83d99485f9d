import JobDashboard.Proofs.Ordered.Entries
import JobDashboard.Stats.Summary
import Mathlib.Data.List.Nodup

/-!
# The keys of a flattened chart point

A key is a queue's name, an underscore and the name of a metric. No name of a metric with its
underscore ends another, so a key tells its queue and its metric apart whatever the queue is called,
and the flattened point holds under it exactly the value that is plotted.
-/
namespace JobDashboard

open Json (Wire)

/-! ## Keys -/

namespace StatsMetric

/-- What a metric adds to the name of a queue. -/
def ending (m : StatsMetric) : List Char := '_' :: m.name.toList

theorem eq_of_ending_isSuffix {m m' : StatsMetric} (h : m.ending <:+ m'.ending) : m = m' := by
  revert h
  cases m <;> cases m' <;> decide

end StatsMetric

theorem toList_seriesKey (queue : String) (m : StatsMetric) :
    (seriesKey queue m.name).toList = queue.toList ++ m.ending := by
  simp [seriesKey, StatsMetric.ending]

/-- A key determines its queue and its metric. -/
theorem seriesKey_inj {queue queue' : String} {m m' : StatsMetric}
    (h : seriesKey queue m.name = seriesKey queue' m'.name) : queue = queue' ∧ m = m' := by
  have hchars := congrArg String.toList h
  rw [toList_seriesKey, toList_seriesKey] at hchars
  have hm : m.ending <:+ queue'.toList ++ m'.ending := ⟨queue.toList, hchars⟩
  have hm' : m'.ending <:+ queue'.toList ++ m'.ending := List.suffix_append ..
  have heq : m = m' := by
    rcases List.suffix_or_suffix_of_suffix hm hm' with hsuffix | hsuffix
    · exact StatsMetric.eq_of_ending_isSuffix hsuffix
    · exact (StatsMetric.eq_of_ending_isSuffix hsuffix).symm
  subst heq
  exact ⟨String.toList_injective (List.append_cancel_right hchars), rfl⟩

theorem seriesKey_ne_timestamp (queue : String) (m : StatsMetric) :
    seriesKey queue m.name ≠ "timestamp" := by
  intro h
  have hchars := congrArg String.toList h
  rw [toList_seriesKey] at hchars
  have hmem : '_' ∈ "timestamp".toList := by
    rw [← hchars]
    exact List.mem_append_right _ List.mem_cons_self
  exact absurd hmem (by decide)

/-! ## Entries -/

namespace ChartPoint

/-- The metrics in the order in which a point lists them. -/
def written : List StatsMetric :=
  [.vcpuSeconds, .memorySeconds, .instanceSeconds, .jobCount, .avgVcpu, .avgMemory]

theorem mem_written (m : StatsMetric) : m ∈ written := by cases m <;> decide

/-- A queue's entries are the values it has, each under its key. -/
theorem queueEntries_eq (queue : String) (p : QueuePoint) :
    queueEntries queue p = written.filterMap fun m => (p.value m).map (seriesKey queue m.name, ·) := by
  obtain ⟨usage, vcpu, memory⟩ := p
  cases vcpu <;> cases memory <;> rfl

theorem mem_queueEntries_iff {queue key : String} {p : QueuePoint} {x : Binary64} :
    (key, x) ∈ queueEntries queue p ↔
      ∃ m : StatsMetric, key = seriesKey queue m.name ∧ p.value m = some x := by
  rw [queueEntries_eq, List.mem_filterMap]
  constructor
  · rintro ⟨m, -, hm⟩
    obtain ⟨y, hy, heq⟩ := Option.map_eq_some_iff.mp hm
    obtain ⟨rfl, rfl⟩ := Prod.mk.inj heq
    exact ⟨m, rfl, hy⟩
  · rintro ⟨m, rfl, hx⟩
    exact ⟨m, mem_written m, by rw [hx]; rfl⟩

theorem nodup_queueEntries (queue : String) (p : QueuePoint) :
    ((queueEntries queue p).map (·.1)).Nodup := by
  rw [queueEntries_eq, List.map_filterMap]
  refine List.Nodup.filterMap (fun m m' key hm hm' => ?_) (by decide : written.Nodup)
  obtain ⟨e, he, rfl⟩ := Option.map_eq_some_iff.mp hm
  obtain ⟨e', he', hkey⟩ := Option.map_eq_some_iff.mp hm'
  obtain ⟨x, -, rfl⟩ := Option.map_eq_some_iff.mp he
  obtain ⟨x', -, rfl⟩ := Option.map_eq_some_iff.mp he'
  exact (seriesKey_inj hkey).2.symm

variable {p : ChartPoint}

theorem mem_entries_iff (h : Ordered.Ascending p.queues) {queue : String} {m : StatsMetric}
    {x : Binary64} : (seriesKey queue m.name, x) ∈ p.entries ↔ p.value queue m = some x := by
  simp only [entries, List.mem_flatMap, value, Option.bind_eq_some_iff]
  constructor
  · rintro ⟨⟨queue', point⟩, hmem, hentry⟩
    obtain ⟨m', hkey, hvalue⟩ := mem_queueEntries_iff.mp hentry
    obtain ⟨rfl, rfl⟩ := seriesKey_inj hkey
    exact ⟨point, (Ordered.lookup_eq_some_iff h).mpr hmem, hvalue⟩
  · rintro ⟨point, hlookup, hvalue⟩
    have hmem := (Ordered.lookup_eq_some_iff h).mp hlookup
    exact ⟨(queue, point), hmem, mem_queueEntries_iff.mpr ⟨m, rfl, hvalue⟩⟩

theorem exists_seriesKey_of_mem_entries {key : String} {x : Binary64} (h : (key, x) ∈ p.entries) :
    ∃ (queue : String) (m : StatsMetric), key = seriesKey queue m.name := by
  obtain ⟨⟨queue, point⟩, -, hentry⟩ := List.mem_flatMap.mp h
  obtain ⟨m, hkey, -⟩ := mem_queueEntries_iff.mp hentry
  exact ⟨queue, m, hkey⟩

/-- Distinct queues share no key. -/
theorem nodup_entries (h : Ordered.Ascending p.queues) : (p.entries.map (·.1)).Nodup := by
  rw [entries, List.map_flatMap, List.nodup_flatMap]
  refine ⟨fun e _ => nodup_queueEntries e.1 e.2, ?_⟩
  have hnames : p.queues.Pairwise fun e e' => e.1 ≠ e'.1 := List.pairwise_map.mp h.nodup_keys
  refine hnames.imp fun {e e'} hne key hkey hkey' => hne ?_
  obtain ⟨⟨_, x⟩, hentry, rfl⟩ := List.mem_map.mp hkey
  obtain ⟨⟨_, x'⟩, hentry', heq⟩ := List.mem_map.mp hkey'
  obtain ⟨m, hm, -⟩ := mem_queueEntries_iff.mp hentry
  obtain ⟨m', hm', -⟩ := mem_queueEntries_iff.mp hentry'
  exact (seriesKey_inj (hm.symm.trans (heq.symm.trans hm'))).1

/-! ## The flattened point -/

theorem mem_members_iff {key : String} {w : Wire} :
    (key, w) ∈ p.members ↔ key = "timestamp" ∧ w = .int p.timestamp.toInt ∨
      ∃ x, (key, x) ∈ p.entries ∧ w = .float x := by
  rw [members, List.mem_cons, Prod.mk.injEq]
  simp only [List.mem_map, Prod.exists, Prod.mk.injEq]
  constructor
  · rintro (h | ⟨_, x, hx, rfl, rfl⟩)
    · exact .inl h
    · exact .inr ⟨x, hx, rfl⟩
  · rintro (h | ⟨x, hx, rfl⟩)
    · exact .inl h
    · exact .inr ⟨key, x, hx, rfl, rfl⟩

theorem mem_members_timestamp {w : Wire} :
    ("timestamp", w) ∈ p.members ↔ w = .int p.timestamp.toInt := by
  rw [mem_members_iff]
  constructor
  · rintro (⟨-, h⟩ | ⟨x, hx, -⟩)
    · exact h
    · obtain ⟨queue, m, hkey⟩ := exists_seriesKey_of_mem_entries hx
      exact absurd hkey.symm (seriesKey_ne_timestamp queue m)
  · intro h
    exact .inl ⟨rfl, h⟩

theorem mem_members_seriesKey (h : Ordered.Ascending p.queues) {queue : String} {m : StatsMetric}
    {w : Wire} : (seriesKey queue m.name, w) ∈ p.members ↔
      ∃ x, p.value queue m = some x ∧ w = .float x := by
  rw [mem_members_iff]
  simp only [mem_entries_iff h, seriesKey_ne_timestamp, false_and, false_or]

theorem nodup_members (h : Ordered.Ascending p.queues) : (p.members.map (·.1)).Nodup := by
  have hkeys : p.members.map (·.1) = "timestamp" :: p.entries.map (·.1) := by
    rw [members, List.map_cons, List.map_map]
    rfl
  rw [hkeys, List.nodup_cons]
  refine ⟨fun hmem => ?_, nodup_entries h⟩
  obtain ⟨⟨key, x⟩, hx, rfl⟩ := List.mem_map.mp hmem
  obtain ⟨queue, m, hkey⟩ := exists_seriesKey_of_mem_entries hx
  exact seriesKey_ne_timestamp queue m hkey.symm

/-- A queue has all four measures, so it is there exactly if one of them is. -/
theorem mem_queues_iff (h : Ordered.Ascending p.queues) {queue : String} :
    queue ∈ p.queues.map (·.1) ↔ ∃ x, p.value queue .vcpuSeconds = some x := by
  rw [← Ordered.isSome_lookup_iff h, Option.isSome_iff_exists]
  constructor
  · rintro ⟨point, hpoint⟩
    exact ⟨_, by rw [value, hpoint]; rfl⟩
  · rintro ⟨x, hx⟩
    obtain ⟨point, hpoint, -⟩ := Option.bind_eq_some_iff.mp hx
    exact ⟨point, hpoint⟩

variable {p' : ChartPoint}

theorem value_eq_of_members (h : Ordered.Ascending p.queues) (h' : Ordered.Ascending p'.queues)
    (hperm : p'.members.Perm p.members) (queue : String) (m : StatsMetric) :
    p'.value queue m = p.value queue m := by
  ext x
  have hmem := hperm.mem_iff (a := (seriesKey queue m.name, Wire.float x))
  rw [mem_members_seriesKey h, mem_members_seriesKey h'] at hmem
  simpa using hmem

/-- Names that are the same are in the same order. -/
theorem queues_eq_of_members (h : Ordered.Ascending p.queues) (h' : Ordered.Ascending p'.queues)
    (hperm : p'.members.Perm p.members) : p'.queues.map (·.1) = p.queues.map (·.1) := by
  have hnames : (p'.queues.map (·.1)).Perm (p.queues.map (·.1)) := by
    rw [List.perm_ext_iff_of_nodup h'.nodup_keys h.nodup_keys]
    intro queue
    rw [mem_queues_iff h, mem_queues_iff h', value_eq_of_members h h' hperm]
  have hascending : (p.queues.map (·.1)).Pairwise fun a b => compare a b = .lt :=
    List.pairwise_map.mpr h
  have hascending' : (p'.queues.map (·.1)).Pairwise fun a b => compare a b = .lt :=
    List.pairwise_map.mpr h'
  refine hnames.eq_of_pairwise (fun a b _ _ hab hba => ?_) hascending' hascending
  have hswap := Std.OrientedCmp.gt_iff_lt.mpr hab
  rw [hba] at hswap
  cases hswap

/-- A flattened point is read unambiguously: its keys are distinct; it has the time, and besides only
keys of a queue and a metric, each exactly if a value is plotted for them, and that value under it.
So its members in whatever order tell the time, the queues and all values. -/
theorem write_unambiguous {p : ChartPoint} (h : Ordered.Ascending p.queues) :
    ∃ members, p.write = .record members ∧ (members.map (·.1)).Nodup ∧
      (∀ w, ("timestamp", w) ∈ members ↔ w = .int p.timestamp.toInt) ∧
      (∀ (queue : String) (metric : StatsMetric) (w : Wire),
        (seriesKey queue metric.name, w) ∈ members ↔
          ∃ x, p.value queue metric = some x ∧ w = .float x) ∧
      (∀ key w, (key, w) ∈ members →
        key = "timestamp" ∨ ∃ (queue : String) (metric : StatsMetric),
          key = seriesKey queue metric.name) ∧
      ∀ (p' : ChartPoint) (members' : List (String × Wire)), Ordered.Ascending p'.queues →
        p'.write = .record members' → members'.Perm members →
          p'.timestamp = p.timestamp ∧ p'.queues.map (·.1) = p.queues.map (·.1) ∧
          ∀ queue metric, p'.value queue metric = p.value queue metric := by
  refine ⟨p.members, rfl, nodup_members h, fun w => mem_members_timestamp,
    fun queue metric w => mem_members_seriesKey h, fun key w hmem => ?_, ?_⟩
  · rcases mem_members_iff.mp hmem with ⟨hkey, -⟩ | ⟨x, hx, -⟩
    · exact .inl hkey
    · exact .inr (exists_seriesKey_of_mem_entries hx)
  · intro p' members' h' hwrite hperm
    obtain rfl : p'.members = members' := Wire.record.inj hwrite
    refine ⟨?_, queues_eq_of_members h h' hperm, value_eq_of_members h h' hperm⟩
    have htime : ("timestamp", Wire.int p'.timestamp.toInt) ∈ p.members :=
      hperm.mem_iff.mp (mem_members_timestamp.mpr rfl)
    exact Int64.toInt_inj.mp (Wire.int.inj (mem_members_timestamp.mp htime))

/-- Queues that are called like keys, or not at all. -/
theorem write_unambiguous_lookalikes :
    let point (vcpuSeconds : Nat) (avgVcpu : Option Binary64) : QueuePoint :=
      ⟨{ vcpuSeconds := .ofNat vcpuSeconds }, avgVcpu, none⟩
    let p : ChartPoint := ⟨1000, [("", point 1 none), ("_avg", point 2 (some .zero)),
      ("_vcpu_seconds", point 3 none), ("timestamp", point 4 none)]⟩
    Ordered.Ascending p.queues ∧ ∃ members, p.write = .record members ∧
      (members.map (·.1)).Nodup ∧ ("_vcpu_seconds", Wire.float (.ofNat 1)) ∈ members ∧
      ("_avg_avg_vcpu", Wire.float .zero) ∈ members ∧ ∀ w, ("_avg_vcpu", w) ∉ members := by
  intro point p
  have hascending : Ordered.Ascending p.queues := by
    unfold Ordered.Ascending
    decide
  obtain ⟨members, hwrite, hnodup, -, hseries, -⟩ := write_unambiguous hascending
  refine ⟨hascending, members, hwrite, hnodup, ?_, ?_, fun w hmem => ?_⟩
  · have hvalue : p.value "" .vcpuSeconds = some (.ofNat 1) := by decide +kernel
    exact (hseries "" .vcpuSeconds _).mpr ⟨_, hvalue, rfl⟩
  · have hvalue : p.value "_avg" .avgVcpu = some .zero := by decide +kernel
    exact (hseries "_avg" .avgVcpu _).mpr ⟨_, hvalue, rfl⟩
  · have hvalue : p.value "" .avgVcpu = none := by decide +kernel
    obtain ⟨x, hx, -⟩ := (hseries "" .avgVcpu w).mp hmem
    rw [hvalue] at hx
    cases hx

end ChartPoint

end JobDashboard
