import JobDashboard.Proofs.Api.Feeds
import JobDashboard.Proofs.Http.Channel
import JobDashboard.Proofs.Json.Printed

/-!
# What the readers of the two streams see

A poll of the jobs or of a job's logs always comes to a frame that stays on its lines: the data as
JSON under the stream's name, or an error that tells the name. So its reader sees one event for each
poll, in the order of the polls, and misses none while it stays.
-/
namespace JobDashboard.Api

open Json (Wire)
open FeedChannel FeedStep JobDashboard.Frame StreamEvent

/-- The two kinds of streams. -/
inductive LiveStream where
  | jobs (query : JobListQuery)
  | logs (id : String) (format : LogFormat)

namespace LiveStream

def name : LiveStream → String
  | jobs _ => "jobs"
  | logs _ _ => "logs"

/-- What each poll asks for. -/
def call : LiveStream → Call
  | jobs query => .listJobs query
  | logs id format => .getLogs id format

def feed (settings : ApiSettings) : LiveStream → Feed
  | jobs query => jobsFeed settings query
  | logs id format => logsFeed settings id format

/-- What is shown of a reply, if it is a good one. -/
def shown? (now : Instant) : (stream : LiveStream) → Reply stream.call → Option Wire
  | jobs _, reply => reply.toOption.map fun records =>
      writeList Job.write (records.map (·.toJob now))
  | logs _ _, reply => reply.toOption.map (writeList LogEntry.write)

/-- The event that tells of a reply. -/
def event (stream : LiveStream) (now : Instant) (reply : Reply stream.call) : StreamEvent :=
  match stream.shown? now reply with
  | some w => ⟨stream.name, w.render⟩
  | none => ⟨"error", stream.name⟩

theorem name_ne : (stream : LiveStream) → stream.name ≠ ""
  | jobs _ => (by decide : "jobs" ≠ "")
  | logs _ _ => (by decide : "logs" ≠ "")

theorem unbroken_name : (stream : LiveStream) → Unbroken stream.name.toList
  | jobs _ => (by decide : Unbroken "jobs".toList)
  | logs _ _ => (by decide : Unbroken "logs".toList)

end LiveStream

/-- Every feed that a server opens is of one of the two kinds. -/
theorem exists_stream_of_run {σ : Type} (settings : ApiSettings) (scheduler : Scheduler σ) (s : σ)
    (stimuli : List Stimulus) : ∀ feed ∈ (run settings scheduler (.start s) stimuli).2.feeds,
      ∃ stream : LiveStream, feed = stream.feed settings := by
  intro feed hfeed
  obtain ⟨query, rfl⟩ | ⟨id, format, rfl⟩ := isFeed_of_run settings scheduler s stimuli feed hfeed
  · exact ⟨.jobs query, rfl⟩
  · exact ⟨.logs id format, rfl⟩

/-! ## One poll -/

theorem frame_eq_frame_id {α : Type} (name : String) (write : α → Wire) (shown : Option α) :
    frame name write shown = frame name id (shown.map write) := by
  cases shown <;> rfl

/-- JSON text stays on its line. -/
theorem unbroken_render (w : Wire) : Unbroken w.render.toList := by
  intro c hc
  rw [Wire.render, String.toList_ofList] at hc
  have hprinted := w.printed_chars c hc
  constructor <;> rintro rfl <;> exact absurd hprinted (by decide)

/-- Where a poll begins. -/
structure PollStart (σ : Type) where
  now : Instant
  dashboard : Dashboard
  upstream : σ

section

variable {σ : Type} (settings : ApiSettings) (stream : LiveStream) (scheduler : Scheduler σ)

namespace PollStart

/-- What a poll comes to. -/
def result (p : PollStart σ) : Except Overflow Frame :=
  (((stream.feed settings).poll p.now).attempt scheduler p.dashboard p.upstream).1

/-- The event that tells how the scheduler answered a poll. -/
def event (p : PollStart σ) : StreamEvent :=
  stream.event p.now (scheduler stream.call p.upstream).1

/-- The frame with that event. -/
def frame (p : PollStart σ) : Frame :=
  Api.frame stream.name id (stream.shown? p.now (scheduler stream.call p.upstream).1)

theorem result_eq (p : PollStart σ) :
    p.result settings stream scheduler = .ok (p.frame stream scheduler) := by
  have hends := Plan.ends_attempt scheduler ((stream.feed settings).poll p.now) p.dashboard
    p.upstream
  cases stream with
  | jobs query =>
    obtain ⟨reply, hasked, hresult⟩ := ends_jobsFeed.mp hends
    cases hasked
    refine hresult.trans (congrArg _ ?_)
    rw [frame_eq_frame_id, Option.map_map]
    rfl
  | logs id format =>
    obtain ⟨reply, hasked, hresult⟩ := ends_logsFeed.mp hends
    cases hasked
    exact hresult.trans (congrArg _ (frame_eq_frame_id _ _ _))

theorem streamEvent?_frame (p : PollStart σ) :
    (p.frame stream scheduler).streamEvent? = some (p.event stream scheduler) := by
  unfold frame event LiveStream.event
  cases stream.shown? p.now (scheduler stream.call p.upstream).1 <;> rfl

theorem isPlain_frame (p : PollStart σ) : (p.frame stream scheduler).IsPlain := by
  unfold frame
  cases stream.shown? p.now (scheduler stream.call p.upstream).1 with
  | none => exact ⟨by decide, by decide, stream.unbroken_name⟩
  | some w => exact ⟨stream.name_ne, stream.unbroken_name, unbroken_render w⟩

theorem events_frames (polls : List (PollStart σ)) :
    events (polls.map (PollStart.frame stream scheduler)) =
      polls.map (PollStart.event stream scheduler) := by
  induction polls with
  | nil => rfl
  | cons p polls ih =>
    rw [List.map_cons, events_cons, streamEvent?_frame, ih]
    rfl

end PollStart

/-! ## All polls -/

variable {settings stream scheduler}
variable {c : FeedChannel} {steps : List FeedStep} {polls : List (PollStart σ)}

section

variable
  (hpolled : (polled steps).map .ok = polls.map (PollStart.result settings stream scheduler))

include hpolled

theorem polled_eq_frames : polled steps = polls.map (PollStart.frame stream scheduler) := by
  have hresults : polls.map (PollStart.result settings stream scheduler) =
      (polls.map (PollStart.frame stream scheduler)).map .ok := by
    rw [List.map_map]
    exact List.map_congr_left fun p _ => p.result_eq settings stream scheduler
  exact (List.map_inj_right fun _ _ => Except.ok.inj).mp (hpolled.trans hresults)

theorem isPlain_polled : ∀ frame ∈ polled steps, frame.IsPlain := by
  rw [polled_eq_frames hpolled]
  exact List.forall_mem_map.mpr fun p _ => p.isPlain_frame stream scheduler

theorem events_polled :
    events (polled steps) = polls.map (PollStart.event stream scheduler) := by
  rw [polled_eq_frames hpolled, PollStart.events_frames]

/-- However the polls before it ended, the next one can be made and its reader told of it. -/
theorem exists_next_told (hrun : run? {} steps = some c) (hkept : c.abandoned = false)
    (p : PollStart σ) : ∃ more c',
      c.run? more = some c' ∧ .leave ∉ more ∧
      (polled more).map .ok = [p.result settings stream scheduler] ∧
      ofBytes (Utf8.encode c'.text) =
        polls.map (PollStart.event stream scheduler) ++ [p.event stream scheduler] := by
  obtain ⟨more, c', hmore, hstays, hnext, hsent⟩ :=
    exists_next_poll hrun hkept (p.frame stream scheduler)
  have hall : run? {} (steps ++ more) = some c' := by
    rw [run?_append, hrun, Option.bind_some, hmore]
  have hplain : ∀ frame ∈ polled (steps ++ more), frame.IsPlain := by
    rw [polled_append, hnext, List.forall_mem_append, List.forall_mem_singleton]
    exact ⟨isPlain_polled hpolled, p.isPlain_frame stream scheduler⟩
  refine ⟨more, c', hmore, hstays, ?_, ?_⟩
  · rw [hnext, p.result_eq settings stream scheduler]
    rfl
  · rw [ofBytes_text hall hplain, hsent, events_append, events_polled hpolled]
    exact congrArg _ (PollStart.events_frames stream scheduler [p])

end

variable (settings stream scheduler)

/-- The reader of a stream sees one event for each poll, in the order of the polls, whatever the
replies hold and however loop, channel and response take turns. -/
theorem readers_see_polls_in_order (hrun : run? {} steps = some c)
    (hpolled : (polled steps).map .ok = polls.map (PollStart.result settings stream scheduler)) :
    let told := polls.map (PollStart.event stream scheduler)
    -- What has arrived tells of the first polls, each once and in order.
    (∀ arrived, arrived <+: Utf8.encode c.text → ofBytes arrived <+: told) ∧
    -- While the reader stays, what it was not sent yet is still there.
    (c.abandoned = false →
      ofBytes (Utf8.encode c.text) ++ events c.queue ++ events c.held.toList = told) ∧
    -- One poll at a time, and none while a frame waits for room.
    (begun steps ≤ (polled steps).length + 1 ∧
      (c.held ≠ none → begun steps = (polled steps).length)) ∧
    (c.held.toList ++ c.queue).length ≤ 5 ∧
    -- However the polls ended, the next one can be made and told.
    (c.abandoned = false → c.loop.stage ≠ .ended ∧ ∀ p : PollStart σ, ∃ more c',
      c.run? more = some c' ∧ .leave ∉ more ∧
      (polled more).map .ok = [p.result settings stream scheduler] ∧
      ofBytes (Utf8.encode c'.text) = told ++ [p.event stream scheduler]) ∧
    -- A poll is one event, whatever comes after it.
    (∀ p : PollStart σ, ∃ frame, p.result settings stream scheduler = .ok frame ∧
      ∀ rest, ofChars (frame.render.toList ++ rest) = p.event stream scheduler :: ofChars rest) ∧
    -- A server opens no other feeds.
    ∀ (s : σ) (stimuli : List Stimulus),
      ∀ feed ∈ (run settings scheduler (.start s) stimuli).2.feeds,
        ∃ stream : LiveStream, feed = stream.feed settings := by
  intro told
  have hplain := isPlain_polled hpolled
  have htold : events (polled steps) = told := events_polled hpolled
  obtain ⟨hsettled, hdelivers, hcounts⟩ := invariants_of_run? hrun
  refine ⟨fun arrived harrived => ?_, fun hkept => ?_, ⟨hcounts.oneAtATime, fun hheld => ?_⟩, ?_,
    fun hkept => ⟨hsettled.goesOn hkept, exists_next_told hpolled hrun hkept⟩, fun p => ?_,
    exists_stream_of_run settings scheduler⟩
  · rw [← htold]
    exact ofBytes_arrived hrun hplain harrived
  · rw [← htold, ofBytes_text hrun hplain]
    exact hdelivers.nothingLost hkept
  · exact begun_eq_of_held hsettled hcounts hheld
  · have hroom : c.queue.length ≤ 4 := hsettled.room
    have hone : c.held.toList.length ≤ 1 := Option.length_toList_le
    rw [List.length_append]
    omega
  · refine ⟨_, p.result_eq settings stream scheduler, fun rest => ?_⟩
    rw [ofChars_render (p.isPlain_frame stream scheduler), PollStart.streamEvent?_frame]
    rfl

end

/-- A scheduler whose logs hold line breaks and the beginning of an event, and which is busy once. -/
def hostile : Scheduler Nat
  | .getLogs _ _, n => (if n = 1 then .error (.status 503 "busy")
      else .ok [⟨"a\r\n\nevent: error\ndata: b"⟩], n + 1)
  | _, n => (.error (.requestFailed "no answer"), n)

/-- The event that tells of these logs. -/
def brokenLines : StreamEvent :=
  ⟨"logs", "[\x7b\"Message\":\"a\\r\\n\\nevent: error\\ndata: b\"\x7d]"⟩

def brokenFrame : Frame := .event brokenLines.name brokenLines.data

/-- Three polls of the logs, of which the second fails. -/
def threePolls : List FeedStep :=
  [.takeTicker, .beginPoll, .endPoll brokenFrame, .push, .send, .takeTicker, .beginPoll, .keepAlive,
    .endPoll (.event "error" "logs"), .push, .takeTicker, .beginPoll, .endPoll brokenFrame, .send,
    .push]

/-- Where they lead: the last frame is still in the channel. -/
def threePolled : FeedChannel :=
  { queue := [brokenFrame], sent := [brokenFrame, .keepAlive, .event "error" "logs"] }

/-- The breaks stay within the event of their poll, and the failed poll ends nothing. -/
theorem readers_see_polls_in_order_hostile :
    FeedChannel.run? {} threePolls = some threePolled ∧
    (∀ arrived, arrived <+: Utf8.encode threePolled.text →
      ofBytes arrived <+: [brokenLines, ⟨"error", "logs"⟩, brokenLines]) ∧
    ofBytes (Utf8.encode threePolled.text) ++ [brokenLines] =
      [brokenLines, ⟨"error", "logs"⟩, brokenLines] := by
  let poll (n : Nat) : PollStart Nat := ⟨⟨1709251200, 0⟩, .fresh, n⟩
  have hrun : FeedChannel.run? {} threePolls = some threePolled := by decide
  have hpolled : (polled threePolls).map .ok =
      [poll 0, poll 1, poll 2].map (PollStart.result {} (.logs "7" .structured) hostile) := by
    decide
  have htold : [poll 0, poll 1, poll 2].map (PollStart.event (.logs "7" .structured) hostile) =
      [brokenLines, ⟨"error", "logs"⟩, brokenLines] := by decide
  obtain ⟨harrived, hall, -⟩ := readers_see_polls_in_order {} (.logs "7" .structured) hostile
    hrun hpolled
  rw [htold] at harrived hall
  have hqueued : events threePolled.queue = [brokenLines] := rfl
  have hheld : events threePolled.held.toList = [] := rfl
  have hnothingLost := hall rfl
  rw [hqueued, hheld, List.append_nil] at hnothingLost
  exact ⟨hrun, harrived, hnothingLost⟩

end JobDashboard.Api
