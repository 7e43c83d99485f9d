import JobDashboard.Board.Fetches
import Mathlib.Data.List.Induction

/-!
# What the loading flag says

A view's flag remembers one event: the latest at which a fetch for the view began or ended. It tells
whether a fetch is under way as long as fetches for the view neither overlap nor are abandoned. With
overlap, the first fetch to end clears the flag for all; an abandoned fetch never clears it.
-/
namespace JobDashboard

namespace FetchEvent

variable {view : View}

/-- The flag that an event sets for a view. -/
def flag? (view : View) : FetchEvent → Option Bool
  | start v => if v = view then some true else none
  | finish v _ => if v = view then some false else none
  | abandon _ => none

/-- The flag that was last set for a view. -/
def lastFlag? (view : View) (events : List FetchEvent) : Option Bool :=
  events.reverse.findSome? (flag? view)

theorem lastFlag?_concat (events : List FetchEvent) (e : FetchEvent) :
    lastFlag? view (events ++ [e]) = (flag? view e).or (lastFlag? view events) := by
  rw [lastFlag?, List.reverse_append, List.reverse_singleton, List.singleton_append,
    List.findSome?_cons]
  cases flag? view e <;> rfl

theorem lastFlag?_eq_some_iff {events : List FetchEvent} {flag : Bool} :
    lastFlag? view events = some flag ↔ ∃ earlier e later, events = earlier ++ e :: later ∧
      flag? view e = some flag ∧ ∀ e ∈ later, flag? view e = none := by
  rw [lastFlag?, List.findSome?_eq_some_iff]
  constructor
  · rintro ⟨later, e, earlier, hevents, he, hlater⟩
    refine ⟨earlier.reverse, e, later.reverse, ?_, he, by simpa using hlater⟩
    rw [← List.reverse_reverse events, hevents]
    simp
  · rintro ⟨earlier, e, later, rfl, he, hlater⟩
    exact ⟨later.reverse, e, earlier.reverse, by simp, he, by simpa using hlater⟩

theorem flag?_eq_some_true_iff {e : FetchEvent} : flag? view e = some true ↔ e = .start view := by
  cases e <;> simp [flag?]

theorem flag?_eq_none_iff {e : FetchEvent} :
    flag? view e = none ↔ e ≠ .start view ∧ ∀ succeeded, e ≠ .finish view succeeded := by
  cases e <;> simp [flag?]

theorem lastFlag?_isSome {events : List FetchEvent} (h : FetchEvent.start view ∈ events) :
    (lastFlag? view events).isSome := by
  rw [lastFlag?, List.findSome?_isSome_iff]
  exact ⟨.start view, List.mem_reverse.mpr h, by simp [flag?]⟩

theorem underWay?_concat (events : List FetchEvent) (e : FetchEvent) :
    underWay? view (events ++ [e]) = (underWay? view events).bind (count? view · e) := by
  simp [underWay?]

/-- The cases of one more event: it starts a fetch for the view, ends one, abandons one, or says
nothing about the view. -/
theorem count?_cases {e : FetchEvent} {m n : Nat} (h : count? view m e = some n) :
    (e = .start view ∧ n = m + 1) ∨ (∃ succeeded, e = .finish view succeeded ∧ m = n + 1) ∨
      (e = .abandon view ∧ m = n + 1) ∨ (flag? view e = none ∧ m = n) := by
  cases e with
  | start v =>
    by_cases hv : v = view
    · subst hv
      exact .inl ⟨rfl, by simpa [count?] using h.symm⟩
    · exact .inr (.inr (.inr ⟨if_neg hv, by simpa [count?, hv] using h⟩))
  | finish v succeeded =>
    by_cases hv : v = view
    · subst hv
      by_cases hm : m = 0
      · simp [count?, hm] at h
      · have hn : m - 1 = n := by simpa [count?, hm] using h
        exact .inr (.inl ⟨succeeded, rfl, by omega⟩)
    · exact .inr (.inr (.inr ⟨if_neg hv, by simpa [count?, hv] using h⟩))
  | abandon v =>
    by_cases hv : v = view
    · subst hv
      by_cases hm : m = 0
      · simp [count?, hm] at h
      · have hn : m - 1 = n := by simpa [count?, hm] using h
        exact .inr (.inr (.inl ⟨rfl, by omega⟩))
    · exact .inr (.inr (.inr ⟨rfl, by simpa [count?, hv] using h⟩))

/-- Without abandoned fetches, the fetch that set the flag last is still under way. -/
theorem pos_of_lastFlag? {events : List FetchEvent} (hkept : FetchEvent.abandon view ∉ events)
    {n : Nat} (h : underWay? view events = some n) (hflag : lastFlag? view events = some true) :
    0 < n := by
  induction events using List.reverseRecOn generalizing n with
  | nil => cases hflag
  | append_singleton events e ih =>
    rw [underWay?_concat, Option.bind_eq_some_iff] at h
    obtain ⟨m, hm, he⟩ := h
    rw [lastFlag?_concat] at hflag
    obtain ⟨rfl, rfl⟩ | ⟨succeeded, rfl, rfl⟩ | ⟨rfl, rfl⟩ | ⟨hnone, rfl⟩ := count?_cases he
    · omega
    · simp [flag?] at hflag
    · simp at hkept
    · rw [hnone, Option.none_or] at hflag
      exact ih (fun hmem => hkept (List.mem_append_left _ hmem)) hm hflag

/-- Without overlap, the fetch under way is the one that set the flag last. -/
theorem lastFlag?_of_pos {events : List FetchEvent}
    (hsingle : ∀ before, before <+: events → ∀ m, underWay? view before = some m → m ≤ 1)
    {n : Nat} (h : underWay? view events = some n) (hn : 0 < n) :
    lastFlag? view events = some true := by
  induction events using List.reverseRecOn generalizing n with
  | nil =>
    obtain rfl := Option.some.inj h
    exact absurd hn (Nat.lt_irrefl 0)
  | append_singleton events e ih =>
    rw [underWay?_concat, Option.bind_eq_some_iff] at h
    obtain ⟨m, hm, he⟩ := h
    have hone : m ≤ 1 := hsingle events (List.prefix_append events [e]) m hm
    rw [lastFlag?_concat]
    obtain ⟨rfl, rfl⟩ | ⟨succeeded, rfl, rfl⟩ | ⟨rfl, rfl⟩ | ⟨hnone, rfl⟩ := count?_cases he
    · simp [flag?]
    · omega
    · omega
    · rw [hnone, Option.none_or]
      exact ih (fun before hb => hsingle before (hb.trans (List.prefix_append events [e]))) hm hn

end FetchEvent

namespace Board

open FetchEvent

variable {view : View}

theorem run_concat (b : Board) (events : List FetchEvent) (e : FetchEvent) :
    b.run (events ++ [e]) = (b.run events).after e := by
  simp [run]

/-- One event leaves the flag that it sets, or the flag that was there. -/
theorem loading_after (b : Board) (e : FetchEvent) :
    ((b.after e).status view).loading = ((flag? view e).getD (b.status view).loading) := by
  cases e with
  | start v =>
    rw [after, begin, status_set]
    by_cases hv : v = view
    · simp [flag?, hv, ViewStatus.fetching]
    · simp [flag?, hv, Ne.symm hv]
  | finish v succeeded =>
    rw [after, finish, status_set]
    by_cases hv : v = view
    · simp [flag?, hv, ViewStatus.fetched]
    · simp [flag?, hv, Ne.symm hv]
  | abandon v => rfl

/-- A view's flag is the one that was last set; at first it is set. -/
theorem loading_run (events : List FetchEvent) :
    ((fresh.run events).status view).loading = (lastFlag? view events).getD true := by
  induction events using List.reverseRecOn with
  | nil => rfl
  | append_singleton events e ih =>
    rw [run_concat, loading_after, ih, lastFlag?_concat]
    cases flag? view e <;> rfl

/-- A view that was fetched is shown as loading exactly if no fetch for it began or ended after the
start of one. If none was abandoned, a fetch is then under way, and if no two were under way at
once, this is so whenever a fetch is under way. -/
theorem loading_iff_last_start {view : View} {events : List FetchEvent} {n : Nat}
    (hstart : FetchEvent.start view ∈ events) (h : underWay? view events = some n) :
    (((fresh.run events).status view).loading = true ↔
      ∃ earlier later, events = earlier ++ .start view :: later ∧
        ∀ e ∈ later, e ≠ .start view ∧ ∀ succeeded, e ≠ .finish view succeeded) ∧
    (FetchEvent.abandon view ∉ events →
      ((fresh.run events).status view).loading = true → 0 < n) ∧
    ((∀ before, before <+: events → ∀ m, underWay? view before = some m → m ≤ 1) →
      0 < n → ((fresh.run events).status view).loading = true) := by
  have hflag : ((fresh.run events).status view).loading = true ↔
      lastFlag? view events = some true := by
    obtain ⟨flag, hf⟩ := Option.isSome_iff_exists.mp (lastFlag?_isSome hstart)
    rw [loading_run, hf]
    simp
  rw [hflag]
  refine ⟨?_, fun hkept => pos_of_lastFlag? hkept h, fun hsingle => lastFlag?_of_pos hsingle h⟩
  simp only [lastFlag?_eq_some_iff, flag?_eq_some_true_iff, flag?_eq_none_iff]
  constructor
  · rintro ⟨earlier, e, later, hevents, rfl, hlater⟩
    exact ⟨earlier, later, hevents, hlater⟩
  · rintro ⟨earlier, later, hevents, hlater⟩
    exact ⟨earlier, _, later, hevents, rfl, hlater⟩

/-- While one fetch follows another, the flag is set exactly during each of them. -/
theorem loading_iff_last_start_in_turn :
    let events : List FetchEvent :=
      [.start .jobs, .start .logs, .finish .jobs false, .abandon .logs, .start .jobs]
    underWay? .jobs events = some 1 ∧ ((fresh.run events).status .jobs).loading = true ∧
      ((fresh.run (events ++ [.finish .jobs true])).status .jobs).loading = false := by
  intro events
  have htake : ∀ k ≤ 5, ∀ m ∈ underWay? .jobs (events.take k), m ≤ 1 := by decide
  have hsingle : ∀ before, before <+: events → ∀ m, underWay? .jobs before = some m → m ≤ 1 := by
    intro before hb m hm
    rw [List.prefix_iff_eq_take.mp hb] at hm
    exact htake _ hb.length_le m hm
  have h := @loading_iff_last_start .jobs events 1 (by decide) (by decide)
  exact ⟨by decide, h.2.2 hsingle (by decide), by decide⟩

/-- The flag does not tell whether a fetch is under way: the first of two fetches to end clears it
for both, and an abandoned one leaves it set. -/
theorem loading_not_iff_under_way :
    let overlapping : List FetchEvent := [.start .jobs, .start .jobs, .finish .jobs true]
    let abandoned : List FetchEvent := [.start .jobs, .abandon .jobs]
    (underWay? .jobs overlapping = some 1 ∧
      ((fresh.run overlapping).status .jobs).loading = false) ∧
    (underWay? .jobs abandoned = some 0 ∧ ((fresh.run abandoned).status .jobs).loading = true) ∧
    ¬∀ (view : View) (events : List FetchEvent) (n : Nat), FetchEvent.start view ∈ events →
      underWay? view events = some n →
      (((fresh.run events).status view).loading = true ↔ 0 < n) := by
  refine ⟨by decide, by decide, fun h => ?_⟩
  exact absurd (h .jobs [.start .jobs, .abandon .jobs] 0 (by decide) (by decide)) (by decide)

end Board

end JobDashboard
