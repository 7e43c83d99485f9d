import JobDashboard.Http.Message

/-!
# Headers of a response

Setting a header leaves one value under its name, whatever was there before, and the other headers
as they were.
-/
namespace JobDashboard.Response

/-- The values of a header, whose name is given in lower case. -/
def header (r : Response) (name : String) : List String :=
  (r.headers.filter (·.1 == name)).map Prod.snd

variable {name other : String}

theorem header_withHeader (r : Response) (name value : String) :
    (r.withHeader name value).header name = [value] := by
  have hnone : (r.headers.filter (·.1 != name)).filter (·.1 == name) = [] := by
    rw [List.filter_filter, List.filter_eq_nil_iff]
    intro h _
    by_cases hname : h.1 = name <;> simp [hname]
  simp only [header, withHeader, List.filter_append, hnone, List.nil_append]
  simp

theorem header_withHeader_of_ne (h : name ≠ other) (r : Response) (value : String) :
    (r.withHeader other value).header name = r.header name := by
  have hothers : ∀ header : String × String, (header.1 == name && header.1 != other) =
      (header.1 == name) := by
    intro header
    by_cases hname : header.1 = name <;> simp [hname, h]
  have hset : ((other == name) : Bool) = false := beq_eq_false_iff_ne.mpr h.symm
  simp only [header, withHeader, List.filter_append, List.filter_filter, hothers]
  simp [hset]

end JobDashboard.Response
