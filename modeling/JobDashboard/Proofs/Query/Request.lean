import JobDashboard.Proofs.Constant
import JobDashboard.Proofs.Text.Integer
import JobDashboard.Query.Request

/-!
# The filters of a page are read from its pairs

The page and the order are always sent, a text, a queue and a status where they select something. So
each of the six is found again under its key, and a page of the job list is determined by its pairs.
-/
namespace JobDashboard

theorem optionalPair_eq (key : String) (value : Option String) :
    optionalPair key value = (value.filter (· ≠ "")).toList.map (key, ·) := by
  unfold optionalPair
  split
  · next v =>
    by_cases hv : v = "" <;> simp [hv, Option.filter]
  · rfl

theorem lookup_optionalPair_of_ne {key key' : String} (h : key ≠ key') (value : Option String) :
    (optionalPair key' value).lookup key = none := by
  rw [optionalPair_eq]
  cases value.filter (· ≠ "") with
  | none => rfl
  | some v => simp [beq_eq_false_iff_ne.mpr h]

theorem lookup_optionalPair (key : String) (value : Option String) :
    (optionalPair key value).lookup key = value.filter (· ≠ "") := by
  rw [optionalPair_eq]
  cases value.filter (· ≠ "") with
  | none => rfl
  | some v => simp

theorem filter_ne_empty {value : Option String} (h : value ≠ some "") :
    value.filter (· ≠ "") = value := by
  cases value with
  | none => rfl
  | some v =>
    have hv : v ≠ "" := fun hempty => h (congrArg some hempty)
    exact Option.filter_some_pos (p := (· ≠ "")) (decide_eq_true hv)

/-- A status has a name that selects. -/
theorem JobStatus.map_name_ne (status : Option JobStatus) : status.map name ≠ some "" := by
  cases status with
  | none => simp
  | some status => cases status <;> decide

namespace JobListQuery

variable (query : JobListQuery)

theorem lookup_q : query.pairs.lookup "q" = if query.q = "" then none else some query.q := by
  have hfilter : (some query.q).filter (· ≠ "") = if query.q = "" then none else some query.q := by
    by_cases hq : query.q = "" <;> simp [hq, Option.filter]
  rw [pairs, List.lookup_append, List.lookup_append, List.lookup_append, lookup_optionalPair,
    lookup_optionalPair_of_ne (by decide), lookup_optionalPair_of_ne (by decide), hfilter,
    Option.or_none, Option.or_none]
  rfl

theorem lookup_queue {query : JobListQuery} (h : query.queue ≠ some "") :
    query.pairs.lookup "queue" = query.queue := by
  rw [pairs, List.lookup_append, List.lookup_append, List.lookup_append, lookup_optionalPair,
    lookup_optionalPair_of_ne (by decide), lookup_optionalPair_of_ne (by decide),
    filter_ne_empty h, Option.or_none]
  rfl

theorem lookup_status : query.pairs.lookup "status" = query.status.map JobStatus.name := by
  rw [pairs, List.lookup_append, List.lookup_append, List.lookup_append, lookup_optionalPair,
    lookup_optionalPair_of_ne (by decide), lookup_optionalPair_of_ne (by decide),
    filter_ne_empty (JobStatus.map_name_ne _)]
  rfl

/-- The page and the order stand first; after them, under its key, each filter that selects. -/
theorem pairs_eq {query : JobListQuery} (hqueue : query.queue ≠ some "") : query.pairs =
    [("page", toString query.page.toNat), ("sortColumn", Constant.name query.sortColumn),
      ("sortDirection", Constant.name query.sortDirection)] ++
    (if query.q = "" then [] else [("q", query.q)]) ++
    query.queue.toList.map ("queue", ·) ++
    query.status.toList.map (("status", ·.name)) := by
  have hq : optionalPair "q" (some query.q) = if query.q = "" then [] else [("q", query.q)] := by
    by_cases hq : query.q = "" <;> simp [optionalPair, hq]
  have hstatus : (query.status.map JobStatus.name).toList.map (("status", ·)) =
      query.status.toList.map (("status", ·.name)) := by
    cases query.status <;> rfl
  rw [pairs, hq, optionalPair_eq, optionalPair_eq, filter_ne_empty hqueue,
    filter_ne_empty (JobStatus.map_name_ne _), hstatus]

theorem pairs_ne_nil (query : JobListQuery) : query.pairs ≠ [] := by
  simp [pairs]

/-- A page of the job list is determined by its pairs. -/
theorem eq_of_pairs {query query' : JobListQuery} (hqueue : query.queue ≠ some "")
    (hqueue' : query'.queue ≠ some "") (h : query.pairs = query'.pairs) : query = query' := by
  have hq : query.q = query'.q := by
    have hlookup := congrArg (List.lookup "q") h
    rw [lookup_q, lookup_q] at hlookup
    split at hlookup <;> split at hlookup <;> simp_all
  have hnamed : query.queue = query'.queue := by
    have hlookup := congrArg (List.lookup "queue") h
    rwa [lookup_queue hqueue, lookup_queue hqueue'] at hlookup
  have hstatus : query.status = query'.status := by
    have hlookup := congrArg (List.lookup "status") h
    rw [lookup_status, lookup_status] at hlookup
    exact Option.map_injective (fun _ _ => JobStatus.name_injective) hlookup
  have hpage : query.page = query'.page := by
    have htext : toString query.page.toNat = toString query'.page.toNat :=
      Option.some.inj (congrArg (List.lookup "page") h)
    have hread := Text.uint32?_toString query.page
    rw [htext, Text.uint32?_toString] at hread
    exact (Option.some.inj hread).symm
  have hcolumn : query.sortColumn = query'.sortColumn :=
    Constant.name_injective (Option.some.inj (congrArg (List.lookup "sortColumn") h))
  have hdirection : query.sortDirection = query'.sortDirection :=
    Constant.name_injective (Option.some.inj (congrArg (List.lookup "sortDirection") h))
  obtain ⟨⟩ := query
  obtain ⟨⟩ := query'
  rw [JobListQuery.mk.injEq]
  exact ⟨hq, hpage, hnamed, hstatus, hcolumn, hdirection⟩

end JobListQuery

end JobDashboard
