import JobDashboard.Log
import Mathlib.Data.List.Basic

/-!
# The lines of a log

A text is a run of lines that each end in a line feed, and a last one that does not. So what was
written one message to a line is read as these messages, whichever of the two ends each line has,
and of any text nothing is lost but the carriage returns that stand right before a line feed.
-/
namespace JobDashboard.LogEntry

/-! ## One line after the other -/

variable {line : List Char}

theorem linesFrom_append (h : '\n' ∉ line) (read cs : List Char) :
    linesFrom read (line ++ cs) = linesFrom (line.reverse ++ read) cs := by
  induction line generalizing read with
  | nil => rfl
  | cons c line ih =>
    have hc : c ≠ '\n' := fun heq => h (heq ▸ List.mem_cons_self)
    have hline : '\n' ∉ line := fun hmem => h (List.mem_cons_of_mem c hmem)
    rw [List.cons_append, linesFrom.eq_3 _ _ _ hc, ih hline, List.reverse_cons, List.append_assoc]
    rfl

theorem lines_append_feed (h : '\n' ∉ line) (rest : List Char) :
    lines (line ++ '\n' :: rest) = withoutReturn line :: lines rest := by
  rw [lines, linesFrom_append h, List.append_nil, linesFrom, List.reverse_reverse, lines]

theorem lines_of_unfed (h : '\n' ∉ line) : lines line = if line = [] then [] else [line] := by
  have hread := linesFrom_append h [] []
  rw [List.append_nil, List.append_nil] at hread
  rw [lines, hread, linesFrom, List.reverse_reverse]
  simp

/-- What holds of a text without a line feed, and of a text whenever it holds of what follows its
first line, holds of every text. -/
theorem lines_induction {P : List Char → Prop} (last : ∀ line, '\n' ∉ line → P line)
    (feed : ∀ line rest, '\n' ∉ line → P rest → P (line ++ '\n' :: rest)) (cs : List Char) :
    P cs := by
  induction hcount : cs.count '\n' generalizing cs with
  | zero => exact last cs (List.count_eq_zero.mp hcount)
  | succ n ih =>
    have hmem : '\n' ∈ cs := List.count_pos_iff.mp (by omega)
    obtain ⟨line, rest, rfl, hline⟩ := List.eq_append_cons_of_mem hmem
    have hrest : rest.count '\n' = n := by
      simpa [List.count_eq_zero.mpr hline] using hcount
    exact feed line rest hline (ih rest hrest)

theorem withoutReturn_of_ne (h : line.getLast? ≠ some '\r') : withoutReturn line = line :=
  if_neg h

theorem withoutReturn_concat (line : List Char) : withoutReturn (line ++ ['\r']) = line := by
  rw [withoutReturn, if_pos (by simp), List.dropLast_concat]

theorem feed_not_mem_withoutReturn (h : '\n' ∉ line) : '\n' ∉ withoutReturn line := by
  rw [withoutReturn]
  split
  · exact fun hmem => h (List.dropLast_subset line hmem)
  · exact h

/-! ## Messages written to lines -/

/-- How a line ends. -/
inductive LineEnd where
  | feed
  | returnFeed

def LineEnd.chars : LineEnd → List Char
  | feed => ['\n']
  | returnFeed => ['\r', '\n']

/-- The message is one line whichever way the line ends. -/
structure IsLine (e : LogEntry) : Prop where
  unfed : '\n' ∉ e.message.toList
  returned : e.message.toList.getLast? ≠ some '\r'

instance (e : LogEntry) : Decidable e.IsLine :=
  decidable_of_iff ('\n' ∉ e.message.toList ∧ e.message.toList.getLast? ≠ some '\r')
    ⟨fun h => ⟨h.1, h.2⟩, fun h => ⟨h.unfed, h.returned⟩⟩

/-- Entries one to a line, each line with an end of its own. -/
def ended (entries : List (LogEntry × LineEnd)) : List Char :=
  entries.flatMap fun (e, lineEnd) => e.message.toList ++ lineEnd.chars

theorem lines_ended {entries : List (LogEntry × LineEnd)} (h : ∀ e ∈ entries, e.1.IsLine)
    (rest : List Char) :
    lines (ended entries ++ rest) = entries.map (·.1.message.toList) ++ lines rest := by
  induction entries with
  | nil => rfl
  | cons entry entries ih =>
    obtain ⟨e, lineEnd⟩ := entry
    have he : e.IsLine := h _ List.mem_cons_self
    have hrest := ih fun e' he' => h e' (List.mem_cons_of_mem _ he')
    have hfirst : ∀ more, lines (e.message.toList ++ lineEnd.chars ++ more) =
        e.message.toList :: lines more := by
      intro more
      cases lineEnd with
      | feed =>
        have hsplit : e.message.toList ++ LineEnd.feed.chars ++ more =
            e.message.toList ++ '\n' :: more := by simp [LineEnd.chars]
        rw [hsplit, lines_append_feed he.unfed, withoutReturn_of_ne he.returned]
      | returnFeed =>
        have hsplit : e.message.toList ++ LineEnd.returnFeed.chars ++ more =
            (e.message.toList ++ ['\r']) ++ '\n' :: more := by simp [LineEnd.chars]
        have hunfed : '\n' ∉ e.message.toList ++ ['\r'] := by simpa using he.unfed
        rw [hsplit, lines_append_feed hunfed, withoutReturn_concat]
    rw [ended, List.flatMap_cons, List.append_assoc, hfirst, ← ended, hrest]
    rfl

/-! ## Any text -/

/-- The text with each carriage return and line feed as one line feed. -/
def withFeeds : List Char → List Char
  | [] => []
  | '\r' :: '\n' :: cs => '\n' :: withFeeds cs
  | c :: cs => c :: withFeeds cs

theorem withFeeds_cons {c : Char} {cs : List Char} (h : c = '\r' → cs.head? ≠ some '\n') :
    withFeeds (c :: cs) = c :: withFeeds cs :=
  withFeeds.eq_3 c cs fun rest hc hcs => h hc (by rw [hcs]; rfl)

theorem withFeeds_of_unfed (h : '\n' ∉ line) : withFeeds line = line := by
  induction line with
  | nil => rfl
  | cons c line ih =>
    have hline : '\n' ∉ line := fun hmem => h (List.mem_cons_of_mem c hmem)
    rw [withFeeds_cons fun _ hhead => hline (List.mem_of_mem_head? hhead), ih hline]

theorem withFeeds_append_feed (h : '\n' ∉ line) (rest : List Char) :
    withFeeds (line ++ '\n' :: rest) = withoutReturn line ++ '\n' :: withFeeds rest := by
  induction line with
  | nil => rfl
  | cons c line ih =>
    have hline : '\n' ∉ line := fun hmem => h (List.mem_cons_of_mem c hmem)
    cases line with
    | nil =>
      by_cases hc : c = '\r'
      · subst hc
        rfl
      · have hlast : [c].getLast? ≠ some '\r' := fun heq => hc (Option.some.inj heq)
        rw [withoutReturn_of_ne hlast, List.singleton_append,
          withFeeds_cons fun heq => absurd heq hc]
        rfl
    | cons d line =>
      have hd : d ≠ '\n' := fun heq => hline (heq ▸ List.mem_cons_self)
      have hhead : c = '\r' → (d :: line ++ '\n' :: rest).head? ≠ some '\n' :=
        fun _ heq => hd (Option.some.inj heq)
      have hkept : withoutReturn (c :: d :: line) = c :: withoutReturn (d :: line) := by
        rw [withoutReturn, withoutReturn, List.getLast?_cons_cons]
        split <;> rfl
      rw [List.cons_append, withFeeds_cons hhead, ih hline, hkept, List.cons_append]

theorem getLast?_append_feed (line : List Char) (c : Char) (rest : List Char) :
    (line ++ '\n' :: c :: rest).getLast? = (c :: rest).getLast? := by
  rw [List.getLast?_append_of_ne_nil _ (by simp), List.getLast?_cons_cons]

/-- The feed that ends a text, if one does. -/
def lastFeed (cs : List Char) : List Char := if cs.getLast? = some '\n' then ['\n'] else []

theorem lines_eq_nil_iff {cs : List Char} : lines cs = [] ↔ cs = [] := by
  induction cs using lines_induction with
  | last line h =>
    rw [lines_of_unfed h]
    split <;> simp_all
  | feed line rest h ih => simp [lines_append_feed h]

theorem feed_not_mem_of_mem_lines {cs : List Char} : ∀ line ∈ lines cs, '\n' ∉ line := by
  induction cs using lines_induction with
  | last line h =>
    intro l hl
    rw [lines_of_unfed h] at hl
    split at hl
    · cases hl
    · rwa [List.mem_singleton.mp hl]
  | feed line rest h ih =>
    intro l hl
    rw [lines_append_feed h] at hl
    obtain rfl | hl := List.mem_cons.mp hl
    · exact feed_not_mem_withoutReturn h
    · exact ih l hl

theorem length_lines (cs : List Char) : (lines cs).length =
    cs.count '\n' + if cs = [] ∨ cs.getLast? = some '\n' then 0 else 1 := by
  induction cs using lines_induction with
  | last line h =>
    have hlast : line.getLast? ≠ some '\n' := fun heq => h (List.mem_of_getLast? heq)
    rw [lines_of_unfed h, List.count_eq_zero.mpr h]
    simp only [hlast, or_false]
    split <;> rfl
  | feed line rest h ih =>
    rw [lines_append_feed h, List.length_cons, ih, List.count_append, List.count_eq_zero.mpr h,
      List.count_cons_self]
    cases rest with
    | nil => simp
    | cons c rest =>
      rw [getLast?_append_feed]
      simp only [List.append_eq_nil_iff, reduceCtorEq, and_false, false_or]
      omega

/-- The lines joined by feeds are the text again, but for returns before feeds. -/
theorem intercalate_lines (cs : List Char) :
    ['\n'].intercalate (lines cs) ++ lastFeed cs = withFeeds cs := by
  induction cs using lines_induction with
  | last line h =>
    have hlast : line.getLast? ≠ some '\n' := fun heq => h (List.mem_of_getLast? heq)
    rw [lines_of_unfed h, lastFeed, if_neg hlast, withFeeds_of_unfed h]
    split
    · next hempty => rw [hempty]; rfl
    · simp
  | feed line rest h ih =>
    rw [lines_append_feed h, withFeeds_append_feed h, ← ih]
    cases rest with
    | nil => simp [lines, linesFrom, lastFeed]
    | cons c rest =>
      obtain ⟨first, more, hlines⟩ := List.exists_cons_of_ne_nil
        (mt lines_eq_nil_iff.mp (List.cons_ne_nil c rest))
      have hlast : lastFeed (line ++ '\n' :: c :: rest) = lastFeed (c :: rest) := by
        rw [lastFeed, lastFeed, getLast?_append_feed]
      rw [hlast, hlines, List.intercalate_cons_cons]
      simp

/-- What was written one message to a line, whatever the ends of the lines, is read as these
messages; the last line may do without an end if it is not empty. Of any text, no entry holds a line
feed, there is one entry for each line feed and one for what follows the last, and the entries joined
by line feeds are the text with its returns before line feeds left out. -/
theorem ofText_lossless :
    (∀ (entries : List (LogEntry × LineEnd)) (last : LogEntry),
      (∀ e ∈ entries, e.1.IsLine) → last.IsLine →
      ofText (.ofList (ended entries ++ last.message.toList)) =
        entries.map Prod.fst ++ if last.message = "" then [] else [last]) ∧
    ∀ text : String,
      (∀ e ∈ ofText text, '\n' ∉ e.message.toList) ∧
      (ofText text).length = text.toList.count '\n' +
        (if text = "" ∨ text.toList.getLast? = some '\n' then 0 else 1) ∧
      ['\n'].intercalate ((ofText text).map (·.message.toList)) ++ lastFeed text.toList =
        withFeeds text.toList := by
  refine ⟨fun entries last hentries hlast => ?_, fun text => ⟨?_, ?_, ?_⟩⟩
  · rw [ofText, String.toList_ofList, lines_ended hentries, lines_of_unfed hlast.unfed,
      List.map_append, List.map_map]
    have hread : entries.map ((fun line => (⟨.ofList line⟩ : LogEntry)) ∘
        fun e : LogEntry × LineEnd => e.1.message.toList) = entries.map Prod.fst := by
      simp [Function.comp_def]
    have hempty : last.message.toList = [] ↔ last.message = "" := by simp
    rw [hread]
    by_cases h : last.message = ""
    · simp [h]
    · simp [h, hempty]
  · intro e he
    obtain ⟨line, hline, rfl⟩ := List.mem_map.mp he
    rw [String.toList_ofList]
    exact feed_not_mem_of_mem_lines line hline
  · rw [ofText, List.length_map, length_lines]
    simp
  · have hread : (ofText text).map (·.message.toList) = lines text.toList := by
      simp [ofText, Function.comp_def]
    rw [hread, intercalate_lines]

/-- An empty line and a return inside a line are kept, and so is a return before a return. -/
theorem ofText_lossless_mixed_ends :
    ofText "start\r\n\na\rb\r\ntail" = [⟨"start"⟩, ⟨""⟩, ⟨"a\rb"⟩, ⟨"tail"⟩] ∧
    (ofText "x\r\r\ny\r").length = 2 ∧
    ['\n'].intercalate ((ofText "x\r\r\ny\r").map (·.message.toList)) = "x\r\ny\r".toList := by
  obtain ⟨hwritten, hread⟩ := ofText_lossless
  obtain ⟨-, hlength, hjoined⟩ := hread "x\r\r\ny\r"
  refine ⟨?_, hlength, (List.append_nil _).symm.trans hjoined⟩
  exact hwritten [(⟨"start"⟩, .returnFeed), (⟨""⟩, .feed), (⟨"a\rb"⟩, .returnFeed)] ⟨"tail"⟩
    (by decide) (by decide)

end JobDashboard.LogEntry
