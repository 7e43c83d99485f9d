import JobDashboard.Proofs.Text.FormUrlencoded
import JobDashboard.Scheduler.Client

/-!
# The query of a call

The pairs of a call are form-encoded behind the query of the base address. So they are read back from
it where the base has none, and calls to the same names with other pairs differ in what they are
addressed to, whatever the base is.
-/
namespace JobDashboard

namespace FormUrlencoded

theorem encode_injective {pairs pairs' : List (String × String)} (h : encode pairs = encode pairs') :
    pairs = pairs' := by
  rw [← decode_encode pairs, h, decode_encode]

end FormUrlencoded

namespace Url

theorem queryWith_injective {query : Option String} {pairs pairs' : List (String × String)}
    (h : queryWith query pairs = queryWith query pairs') : pairs = pairs' := by
  refine FormUrlencoded.encode_injective ?_
  unfold queryWith at h
  split at h
  · exact h
  · exact h
  · exact (String.append_right_inj _).mp h

theorem withPairs_eq (u : Url) {pairs : List (String × String)} (h : pairs ≠ []) :
    u.withPairs pairs = { u with query := some (queryWith u.query pairs) } := by
  rw [withPairs, List.isEmpty_eq_false_iff.mpr h]
  rfl

theorem query_extend (u : Url) (names : List String) : (u.extend names).query = u.query := by
  unfold extend
  split <;> rfl

/-- An address is cut into what stands before its query, the query, and its fragment. -/
theorem toString_query_injective {u : Url} {query query' : String}
    (h : { u with query := some query }.toString = { u with query := some query' }.toString) :
    query = query' := by
  rw [toString, toString] at h
  exact (String.append_right_inj _).mp ((String.append_right_inj _).mp
    ((String.append_left_inj _).mp h))

theorem target_query_injective {u : Url} {query query' : String}
    (h : { u with query := some query }.target = { u with query := some query' }.target) :
    query = query' :=
  (String.append_right_inj _).mp ((String.append_right_inj _).mp h)

end Url

namespace SchedulerClient

open Url

variable (c : SchedulerClient) {call call' : Call}

theorem url_eq (h : call.pairs ≠ []) : c.url call =
    { c.base.extend (version ++ call.names) with
      query := some (queryWith c.base.query call.pairs) } := by
  rw [url, withPairs_eq _ h, query_extend]

/-- Behind a base without a query, that of a call is read as its pairs and nothing else. -/
theorem decode_query_url (hbase : c.base.query = none) (h : call.pairs ≠ []) :
    (c.url call).query.map FormUrlencoded.decode = some call.pairs := by
  rw [c.url_eq h, Option.map_some, hbase, queryWith, FormUrlencoded.decode_encode]

/-- Other pairs are another address. -/
theorem pairs_eq_of_url (hnames : call.names = call'.names) (h : call.pairs ≠ [])
    (h' : call'.pairs ≠ []) (hurl : (c.url call).toString = (c.url call').toString) :
    call.pairs = call'.pairs := by
  rw [c.url_eq h, c.url_eq h', hnames] at hurl
  exact queryWith_injective (toString_query_injective hurl)

/-- Other pairs are another target of the request. -/
theorem pairs_eq_of_target (hnames : call.names = call'.names) (h : call.pairs ≠ [])
    (h' : call'.pairs ≠ []) (htarget : (c.url call).target = (c.url call').target) :
    call.pairs = call'.pairs := by
  rw [c.url_eq h, c.url_eq h', hnames] at htarget
  exact queryWith_injective (target_query_injective htarget)

end SchedulerClient

end JobDashboard
