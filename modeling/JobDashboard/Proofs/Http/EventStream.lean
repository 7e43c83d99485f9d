import JobDashboard.Http.EventStream
import JobDashboard.Proofs.Text.Utf8

/-!
# Frames as their reader sees them

Frames whose names and data break no line are read as the events that they carry, one for one. A
reader that has only the beginning of what was sent has only seen the beginning of the events.
-/
namespace JobDashboard

/-- Characters that stay on one line. -/
def Unbroken (cs : List Char) : Prop := ∀ c ∈ cs, c ≠ '\n' ∧ c ≠ '\r'

instance (cs : List Char) : Decidable (Unbroken cs) := List.decidableBAll _ cs

theorem Unbroken.append {cs ds : List Char} (h : Unbroken cs) (h' : Unbroken ds) :
    Unbroken (cs ++ ds) := fun c hc => (List.mem_append.mp hc).elim (h c) (h' c)

namespace StreamEvent

/-! ## Lines -/

theorem linesFrom_cons {c : Char} (h : c ≠ '\n' ∧ c ≠ '\r') (read cs : List Char) :
    linesFrom read (c :: cs) = linesFrom (c :: read) cs :=
  linesFrom.eq_5 read c cs (fun _ hreturn _ => h.2 hreturn) h.2 h.1

/-- A carriage return alone ends a line. -/
theorem linesFrom_return {c : Char} (h : c ≠ '\n') (read cs : List Char) :
    linesFrom read ('\r' :: c :: cs) = read.reverse :: linesFrom [] (c :: cs) :=
  linesFrom.eq_3 read (c :: cs) fun _ heq => h (List.cons.inj heq).1

theorem linesFrom_line {line : List Char} (h : Unbroken line) (read cs : List Char) :
    linesFrom read (line ++ '\n' :: cs) = (read.reverse ++ line) :: linesFrom [] cs := by
  induction line generalizing read with
  | nil => simp [linesFrom]
  | cons c line ih =>
    have hrest := ih (fun d hd => h d (List.mem_cons_of_mem c hd)) (c :: read)
    rw [List.cons_append, linesFrom_cons (h c List.mem_cons_self), hrest]
    simp

/-- What comes later leaves the lines that have ended as they are. -/
theorem prefix_linesFrom_append (read cs more : List Char) :
    linesFrom read cs <+: linesFrom read (cs ++ more) := by
  fun_induction linesFrom read cs with
  | case1 read => exact List.nil_prefix
  | case2 read cs ih =>
    simp only [List.cons_append, linesFrom]
    exact (List.prefix_cons_inj _).mpr ih
  | case3 read cs hfeed ih =>
    cases cs with
    | nil =>
      -- A line feed that comes later belongs to the line that the carriage return ended.
      cases more with
      | nil => exact List.prefix_rfl
      | cons c more =>
        by_cases hc : c = '\n'
        · subst hc
          simp [linesFrom]
        · rw [List.cons_append, List.nil_append, linesFrom_return hc]
          exact (List.prefix_cons_inj _).mpr List.nil_prefix
    | cons c cs =>
      have hc : c ≠ '\n' := fun h => hfeed cs (by rw [h])
      rw [List.cons_append, List.cons_append, linesFrom_return hc]
      exact (List.prefix_cons_inj _).mpr ih
  | case4 read cs ih =>
    simp only [List.cons_append, linesFrom]
    exact (List.prefix_cons_inj _).mpr ih
  | case5 read c cs _ hreturn hfeed ih =>
    rw [List.cons_append, linesFrom_cons ⟨hfeed, hreturn⟩]
    exact ih

/-- A character that ends no line leaves what has ended as it is. -/
theorem linesFrom_concat {c : Char} (h : c ≠ '\n' ∧ c ≠ '\r') (read cs : List Char) :
    linesFrom read (cs ++ [c]) = linesFrom read cs := by
  fun_induction linesFrom read cs with
  | case1 read => exact linesFrom_cons h read []
  | case2 read cs ih => simp only [List.cons_append, linesFrom, ih]
  | case3 read cs hfeed ih =>
    cases cs with
    | nil =>
      change linesFrom read ['\r', c] = [read.reverse]
      rw [linesFrom_return h.1, linesFrom_cons h]
      rfl
    | cons d cs =>
      have hd : d ≠ '\n' := fun heq => hfeed cs (by rw [heq])
      rw [List.cons_append, List.cons_append, linesFrom_return hd, ← List.cons_append, ih]
  | case4 read cs ih => simp only [List.cons_append, linesFrom, ih]
  | case5 read d cs _ hreturn hfeed ih => rw [List.cons_append, linesFrom_cons ⟨hfeed, hreturn⟩, ih]

/-! ## Events -/

theorem prefix_ofLines (p : Pending) {lines more : List (List Char)} (h : lines <+: more) :
    ofLines p lines <+: ofLines p more := by
  obtain ⟨rest, rfl⟩ := h
  induction lines generalizing p with
  | nil => exact List.nil_prefix
  | cons line lines ih =>
    cases line with
    | nil => exact (List.prefix_append_right_inj _).mpr (ih {})
    | cons c cs => exact ih _

/-- Events that were seen stay as they are, whatever comes later. -/
theorem prefix_ofChars_append (cs more : List Char) : ofChars cs <+: ofChars (cs ++ more) :=
  prefix_ofLines {} (prefix_linesFrom_append [] cs more)

theorem ofChars_concat {c : Char} (h : c ≠ '\n' ∧ c ≠ '\r') (cs : List Char) :
    ofChars (cs ++ [c]) = ofChars cs := by
  rw [ofChars, linesFrom_concat h, ofChars]

end StreamEvent

namespace Frame

open StreamEvent

/-- A frame whose name and data stay on the line that they are written on. -/
def IsPlain : Frame → Prop
  | event name data => name ≠ "" ∧ Unbroken name.toList ∧ Unbroken data.toList
  | keepAlive => True

/-- The lines of a frame. -/
def lines : Frame → List (List Char)
  | event name data => ["event: ".toList ++ name.toList, "data: ".toList ++ data.toList, []]
  | keepAlive => [[':'], []]

/-- A plain frame is read as its lines. -/
theorem linesFrom_render {frame : Frame} (h : frame.IsPlain) (cs : List Char) :
    linesFrom [] (frame.render.toList ++ cs) = frame.lines ++ linesFrom [] cs := by
  cases frame with
  | keepAlive => rfl
  | event name data =>
    have hsplit : (event name data).render.toList ++ cs =
        ("event: ".toList ++ name.toList) ++ '\n' ::
          (("data: ".toList ++ data.toList) ++ '\n' :: ([] ++ '\n' :: cs)) := by
      simp [render, toString]
    have hname : Unbroken ("event: ".toList ++ name.toList) := .append (by decide) h.2.1
    have hdata : Unbroken ("data: ".toList ++ data.toList) := .append (by decide) h.2.2
    rw [hsplit, linesFrom_line hname, linesFrom_line hdata, linesFrom_line (by decide)]
    rfl

/-- The lines of a plain frame complete its event. -/
theorem ofLines_lines {frame : Frame} (h : frame.IsPlain) (lines : List (List Char)) :
    ofLines {} (frame.lines ++ lines) = frame.streamEvent?.toList ++ ofLines {} lines := by
  cases frame with
  | keepAlive => rfl
  | event name data =>
    have hname : name.toList ≠ [] := fun hnil => h.1 (String.toList_eq_nil_iff.mp hnil)
    have hfield : Pending.field {} ("event: ".toList ++ name.toList) = ⟨name.toList, []⟩ := rfl
    have hdata : Pending.field ⟨name.toList, []⟩ ("data: ".toList ++ data.toList) =
      ⟨name.toList, [data.toList]⟩ := rfl
    change ofLines (Pending.field (Pending.field {} ("event: ".toList ++ name.toList))
      ("data: ".toList ++ data.toList)) ([] :: lines) = _
    rw [hfield, hdata]
    simp [ofLines, Pending.event?, streamEvent?, hname]

/-- A plain frame is read as the event that it carries, whatever follows it. -/
theorem ofChars_render {frame : Frame} (h : frame.IsPlain) (cs : List Char) :
    ofChars (frame.render.toList ++ cs) = frame.streamEvent?.toList ++ ofChars cs := by
  rw [ofChars, linesFrom_render h, ofLines_lines h, ofChars]

theorem events_append (frames more : List Frame) :
    events (frames ++ more) = events frames ++ events more := List.filterMap_append

theorem events_cons (frame : Frame) (frames : List Frame) :
    events (frame :: frames) = frame.streamEvent?.toList ++ events frames := by
  cases hcarries : frame.streamEvent? <;> simp [events, hcarries]

/-- Frames that carry no other events than plain ones are plain. -/
theorem isPlain_of_events_subset {frames more : List Frame} (h : ∀ frame ∈ more, frame.IsPlain)
    (hsub : events frames ⊆ events more) : ∀ frame ∈ frames, frame.IsPlain := by
  intro frame hframe
  cases frame with
  | keepAlive => trivial
  | event name data =>
    have hmem : ⟨name, data⟩ ∈ events frames := List.mem_filterMap.mpr ⟨_, hframe, rfl⟩
    obtain ⟨carrier, hcarrier, hcarries⟩ := List.mem_filterMap.mp (hsub hmem)
    cases carrier with
    | keepAlive => cases hcarries
    | event name' data' =>
      cases hcarries
      exact h _ hcarrier

theorem ofChars_join {frames : List Frame} (h : ∀ frame ∈ frames, frame.IsPlain) :
    ofChars (String.join (frames.map render)).toList = events frames := by
  induction frames with
  | nil => rfl
  | cons frame frames ih =>
    have hrest := ih fun f hf => h f (List.mem_cons_of_mem _ hf)
    rw [List.map_cons, String.join_cons, String.toList_append,
      ofChars_render (h frame List.mem_cons_self), hrest, events_cons]

/-- Plain frames are read from their bytes. -/
theorem ofBytes_join {frames : List Frame} (h : ∀ frame ∈ frames, frame.IsPlain) :
    ofBytes (Utf8.encode (String.join (frames.map render))) = events frames := by
  rw [ofBytes, Utf8.decodeReplacing_encode, ofChars_join h]

/-- Wherever plain frames are cut off, only the events after the cut are missing. -/
theorem prefix_ofBytes {frames : List Frame} (h : ∀ frame ∈ frames, frame.IsPlain) {bs : Bytes}
    (hbs : bs <+: Utf8.encode (String.join (frames.map render))) :
    ofBytes bs <+: events frames := by
  obtain ⟨front, ⟨rest, hrest⟩, hread⟩ := Utf8.prefix_decodeReplacing hbs
  have hfront : ofBytes bs = ofChars front := by
    obtain hread | hread := hread
    · rw [ofBytes, hread]
    · rw [ofBytes, hread, ofChars_concat (by decide)]
  rw [hfront, ← ofChars_join h, ← hrest]
  exact prefix_ofChars_append front rest

end Frame

end JobDashboard
