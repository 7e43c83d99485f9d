import JobDashboard.Proofs.Ordered.Entries
import Mathlib.Data.List.Induction
import Mathlib.Data.List.Perm.Basic

/-!
# Grouping in one pass

A pass over rows that updates the entry of each row's key, starting an absent entry from an initial
value, holds at every key the fold over the rows of that key alone, in the order of the pass. The
invariant of the pass is `Grouped`. An entry may itself be such a list of entries, so one invariant
serves groups of groups as well.
-/
namespace JobDashboard.Ordered

variable {κ α ε ρ : Type}

section Rows

variable [DecidableEq κ]

/-- The rows of one key. -/
def ofKey (key : ρ → κ) (k : κ) (rows : List ρ) : List ρ := rows.filter (key · = k)

theorem ofKey_concat_self (key : ρ → κ) (rows : List ρ) (row : ρ) :
    ofKey key (key row) (rows ++ [row]) = ofKey key (key row) rows ++ [row] := by
  simp [ofKey]

theorem ofKey_concat_of_ne {key : ρ → κ} {k : κ} {row : ρ} (h : k ≠ key row) (rows : List ρ) :
    ofKey key k (rows ++ [row]) = ofKey key k rows := by
  simp [ofKey, Ne.symm h]

/-- The rows with a key among several, first those with the first of these keys. -/
theorem ofKey_append_perm {key : ρ → κ} {k : κ} {ks : List κ} (hk : k ∉ ks) (rows : List ρ) :
    (ofKey key k rows ++ rows.filter (key · ∈ ks)).Perm (rows.filter (key · ∈ k :: ks)) := by
  have hof : (rows.filter (key · ∈ k :: ks)).filter (key · = k) = ofKey key k rows := by
    rw [List.filter_filter, ofKey]
    refine List.filter_congr fun r _ => ?_
    by_cases hr : key r = k <;> simp [hr]
  have hnot : (rows.filter (key · ∈ k :: ks)).filter (fun r => !decide (key r = k)) =
      rows.filter (key · ∈ ks) := by
    rw [List.filter_filter]
    refine List.filter_congr fun r _ => ?_
    by_cases hr : key r = k <;> simp [hr, hk]
  have hsplit := List.filter_append_perm (key · = k) (rows.filter (key · ∈ k :: ks))
  rwa [hof, hnot] at hsplit

/-- The groups of distinct keys together hold each row with one of these keys once. -/
theorem flatMap_ofKey_perm (key : ρ → κ) (rows : List ρ) :
    ∀ {ks : List κ}, ks.Nodup →
      (ks.flatMap (ofKey key · rows)).Perm (rows.filter (key · ∈ ks))
  | [], _ => by simp
  | k :: ks, h => by
    obtain ⟨hk, hks⟩ := List.nodup_cons.mp h
    exact ((flatMap_ofKey_perm key rows hks).append_left _).trans (ofKey_append_perm hk rows)

end Rows

variable [Ord κ]

/-- Takes a row into the entry of its key. -/
def take (key : ρ → κ) (init : α) (step : α → ρ → Except ε α) (entries : List (κ × α)) (row : ρ) :
    Except ε (List (κ × α)) :=
  alter (key row) (fun a => step (a.getD init) row) entries

/-- One pass over rows. -/
def collect (key : ρ → κ) (init : α) (step : α → ρ → Except ε α) (rows : List ρ) :
    Except ε (List (κ × α)) :=
  rows.foldlM (take key init step) []

variable [DecidableEq κ]

/-- The entries are those of the rows seen so far, and each holds the fold over its own rows. -/
structure Grouped (key : ρ → κ) (init : α) (step : α → ρ → Except ε α) (rows : List ρ)
    (entries : List (κ × α)) : Prop where
  ascending : Ascending entries
  isSome_lookup : ∀ k, (lookup k entries).isSome ↔ ∃ r ∈ rows, key r = k
  fold_eq : ∀ k, (ofKey key k rows).foldlM step init = .ok ((lookup k entries).getD init)

theorem grouped_nil (key : ρ → κ) (init : α) (step : α → ρ → Except ε α) :
    Grouped key init step [] [] where
  ascending := List.Pairwise.nil
  isSome_lookup k := by simp [lookup]
  fold_eq _ := rfl

variable {key : ρ → κ} {init : α} {step : α → ρ → Except ε α}
variable {rows : List ρ} {entries : List (κ × α)}

namespace Grouped

variable [Std.LawfulEqOrd κ]

theorem key_mem_iff (h : Grouped key init step rows entries) (k : κ) :
    k ∈ entries.map (·.1) ↔ ∃ r ∈ rows, key r = k := by
  rw [← isSome_lookup_iff h.ascending, h.isSome_lookup]

/-- An entry holds the fold over the rows of its key. -/
theorem fold_of_mem (h : Grouped key init step rows entries) {e : κ × α} (he : e ∈ entries) :
    (ofKey key e.1 rows).foldlM step init = .ok e.2 := by
  rw [h.fold_eq, (lookup_eq_some_iff h.ascending).mpr he]
  rfl

/-- The groups of the entries together are the rows: none is lost, repeated or shared. -/
theorem perm (h : Grouped key init step rows entries) :
    (entries.flatMap fun e => ofKey key e.1 rows).Perm rows := by
  have hp := flatMap_ofKey_perm key rows h.ascending.nodup_keys
  rw [List.flatMap_map] at hp
  have hall : rows.filter (key · ∈ entries.map (·.1)) = rows :=
    List.filter_eq_self.mpr fun r hr => decide_eq_true ((h.key_mem_iff (key r)).mpr ⟨r, hr, rfl⟩)
  rwa [hall] at hp

variable [Std.TransOrd κ]

/-- One row more: its own group grows by it, all others stay. -/
theorem put {row : ρ} {a : α} (h : Grouped key init step rows entries)
    (hs : step ((lookup (key row) entries).getD init) row = .ok a) :
    Grouped key init step (rows ++ [row]) (Ordered.put (key row) a entries) := by
  constructor
  · exact ascending_put _ _ h.ascending
  · intro k
    rw [lookup_put]
    by_cases hk : k = key row
    · simp [hk]
    · simp [hk, h.isSome_lookup, Ne.symm hk]
  · intro k
    rw [lookup_put]
    by_cases hk : k = key row
    · subst hk
      rw [ofKey_concat_self, Outcome.foldlM_concat_eq_ok_iff]
      exact ⟨_, h.fold_eq _, by simpa using hs⟩
    · rw [ofKey_concat_of_ne hk, if_neg hk, h.fold_eq]

/-- What `take` does to grouped entries. -/
theorem take_eq (row : ρ) (h : Grouped key init step rows entries) :
    take key init step entries row =
      (step ((lookup (key row) entries).getD init) row).map (Ordered.put (key row) · entries) :=
  alter_eq h.ascending

end Grouped

variable [Std.LawfulEqOrd κ] [Std.TransOrd κ]

/-- A pass that ends well leaves the groups of its rows. -/
theorem grouped_of_collect (h : collect key init step rows = .ok entries) :
    Grouped key init step rows entries := by
  induction rows using List.reverseRecOn generalizing entries with
  | nil =>
    obtain rfl := Except.ok.inj h
    exact grouped_nil key init step
  | append_singleton rows row ih =>
    obtain ⟨before, hb, ht⟩ := Outcome.foldlM_concat_eq_ok_iff.mp h
    rw [(ih hb).take_eq, Outcome.map_eq_ok_iff] at ht
    obtain ⟨a, ha, rfl⟩ := ht
    exact (ih hb).put ha

/-- A pass ends well if the fold over each group does. -/
theorem exists_collect (h : ∀ k, ∃ a, (ofKey key k rows).foldlM step init = .ok a) :
    ∃ entries, collect key init step rows = .ok entries := by
  induction rows using List.reverseRecOn with
  | nil => exact ⟨[], rfl⟩
  | append_singleton rows row ih =>
    have hprefix : ∀ k, ∃ a, (ofKey key k rows).foldlM step init = .ok a := by
      intro k
      obtain ⟨a, ha⟩ := h k
      by_cases hk : k = key row
      · subst hk
        rw [ofKey_concat_self, Outcome.foldlM_concat_eq_ok_iff] at ha
        exact ha.imp fun _ hm => hm.1
      · rw [ofKey_concat_of_ne hk] at ha
        exact ⟨a, ha⟩
    obtain ⟨before, hb⟩ := ih hprefix
    have hg := grouped_of_collect hb
    obtain ⟨a, ha⟩ := h (key row)
    rw [ofKey_concat_self, Outcome.foldlM_concat_eq_ok_iff] at ha
    obtain ⟨m, hm, hs⟩ := ha
    obtain rfl := Except.ok.inj ((hg.fold_eq (key row)).symm.trans hm)
    refine ⟨put (key row) a before, ?_⟩
    rw [collect, Outcome.foldlM_concat_eq_ok_iff]
    exact ⟨before, hb, by rw [hg.take_eq, hs]; rfl⟩

section Nested

variable {κ' : Type} [Ord κ'] [DecidableEq κ'] [Std.LawfulEqOrd κ']
variable {outer : ρ → κ'} {groups : List (κ' × List (κ × α))}

/-- The entries of a group of groups are the groups of its rows. -/
theorem Grouped.inner (h : Grouped outer [] (take key init step) rows groups)
    {e : κ' × List (κ × α)} (he : e ∈ groups) :
    Grouped key init step (ofKey outer e.1 rows) e.2 :=
  grouped_of_collect (h.fold_of_mem he)

/-- The groups of groups together are the rows. -/
theorem Grouped.perm_inner (h : Grouped outer [] (take key init step) rows groups) :
    (groups.flatMap fun e => e.2.flatMap fun c => ofKey key c.1 (ofKey outer e.1 rows)).Perm
      rows :=
  (List.Perm.flatMap_left groups fun _ he => (h.inner he).perm).trans h.perm

end Nested

end JobDashboard.Ordered
