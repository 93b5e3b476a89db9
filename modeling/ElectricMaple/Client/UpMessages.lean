import ElectricMaple.Client.FrameSubmission
import Mathlib.Algebra.Group.Nat.Basic

/-!
# The UpMessage trace

`emit_upmessage` is the only place a message gets its `up_message_id`: it takes the shared
counter and increments it, whether or not the send then succeeds. A frame emits the frame's
timing from `report_frame_timing`, when it adopts a sample whose two times convert, and then
the head pose from `report_pose`, when it reaches `xrEndFrame` and locates the head. Over a
run, the messages are numbered `1, 2, 3, …`, each carries exactly one of `tracking` and
`frame`, and the frame reports name exactly the samples of the `NEW_SAMPLE` frames whose times
convert.
-/

namespace ElectricMaple
namespace Client

/-- The message a call sends, if any. -/
def Call.sentMessage : Call → Option UpMessage
  | .sendBytes message => some message
  | _ => none

/-- `emit_upmessage` applied to each message in turn, from the counter `next`: the messages as
sent, and the counter after. -/
def emitAll : UInt64 → List UpMessage → List UpMessage × UInt64
  | next, [] => ([], next)
  | next, message :: messages =>
      ({ message with upMessageId := next } :: (emitAll (next + 1) messages).1,
        (emitAll (next + 1) messages).2)

@[simp] theorem emitAll_nil (next : UInt64) : emitAll next [] = ([], next) := rfl

theorem emitAll_append (next : UInt64) (first second : List UpMessage) :
    emitAll next (first ++ second) =
      ((emitAll next first).1 ++ (emitAll (emitAll next first).2 second).1,
        (emitAll (emitAll next first).2 second).2) := by
  induction first generalizing next with
  | nil => rfl
  | cons message first inductionHypothesis =>
      simp [emitAll, inductionHypothesis]

theorem emitAll_length (next : UInt64) (messages : List UpMessage) :
    (emitAll next messages).1.length = messages.length := by
  induction messages generalizing next with
  | nil => rfl
  | cons message messages inductionHypothesis => simp [emitAll, inductionHypothesis]

/-- Stamping leaves what a view that ignores the id sees of the messages. -/
theorem filterMap_emitAll {β : Type} {view : UpMessage → Option β}
    (ignoresId : ∀ message id, view { message with upMessageId := id } = view message)
    (next : UInt64) (messages : List UpMessage) :
    (emitAll next messages).1.filterMap view = messages.filterMap view := by
  induction messages generalizing next with
  | nil => rfl
  | cons message messages inductionHypothesis =>
      simp only [emitAll, List.filterMap_cons, ignoresId, inductionHypothesis]

theorem forall_mem_emitAll {property : UpMessage → Prop}
    (ignoresId : ∀ message id, property { message with upMessageId := id } ↔ property message)
    (next : UInt64) (messages : List UpMessage) :
    (∀ message ∈ (emitAll next messages).1, property message) ↔
      ∀ message ∈ messages, property message := by
  induction messages generalizing next with
  | nil => simp
  | cons message messages inductionHypothesis =>
      simp only [emitAll, List.mem_cons, forall_eq_or_imp, ignoresId, inductionHypothesis]

theorem toNat_add_one (counter : UInt64) : (counter + 1).toNat = (counter.toNat + 1) % 2 ^ 64 :=
  rfl

/-- Until the counter wraps, the ids run on from the counter without gap or repeat. -/
theorem emitAll_ids {next : UInt64} {messages : List UpMessage}
    (noWrap : next.toNat + messages.length < 2 ^ 64) :
    (emitAll next messages).1.map (·.upMessageId.toNat) =
      List.range' next.toNat messages.length := by
  induction messages generalizing next with
  | nil => rfl
  | cons message messages inductionHypothesis =>
      have successor : (next + 1).toNat = next.toNat + 1 := by
        rw [toNat_add_one, Nat.mod_eq_of_lt (by simp at noWrap; omega)]
      simp only [emitAll, List.map_cons, List.length_cons, List.range'_succ]
      rw [inductionHypothesis (by simp at noWrap; omega), successor]

/-- A message as `report_pose` or `report_frame_timing` builds it: exactly one of its
`tracking` and `frame` is set. -/
def UpMessage.OneBody (message : UpMessage) : Prop :=
  (message.tracking.isSome ∧ message.frame = none) ∨ (message.tracking = none ∧ message.frame.isSome)

/-- The sequence id the frame report of a frame carries when it adopts a sample: that
sample's, if both of its times convert. -/
def FrameInputs.frameReport (convertTimespecTimeToTime : Timespec → Option XrTime)
    (input : FrameInputs) : Option Int :=
  match input.pulled, input.clockGettime with
  | some (sample, decodeEndTime), some beginTime =>
      if (convertTimespecTimeToTime decodeEndTime).isSome &&
          (convertTimespecTimeToTime beginTime).isSome then
        some sample.frameSequenceId
      else none
  | _, _ => none

namespace EmRemoteExperience

variable (convertTimespecTimeToTime : Timespec → Option XrTime)

/-- What a frame sends, before stamping, and its frame reports. -/
def SendsFrom (exp exp' : EmRemoteExperience) (calls : List Call) (reports : List Int) : Prop :=
  ∃ messages, calls.filterMap Call.sentMessage = (emitAll exp.nextUpMessage messages).1 ∧
    exp'.nextUpMessage = (emitAll exp.nextUpMessage messages).2 ∧
    (∀ message ∈ messages, message.OneBody) ∧
    (messages.filterMap (·.frame)).map (·.frameSequenceId) = reports

theorem sendsFrom_nil (exp : EmRemoteExperience) : SendsFrom exp exp [] [] :=
  ⟨[], rfl, rfl, by simp, rfl⟩

theorem SendsFrom.append {exp exp₁ exp₂ : EmRemoteExperience} {calls₁ calls₂ : List Call}
    {reports₁ reports₂ : List Int} (first : SendsFrom exp exp₁ calls₁ reports₁)
    (second : SendsFrom exp₁ exp₂ calls₂ reports₂) :
    SendsFrom exp exp₂ (calls₁ ++ calls₂) (reports₁ ++ reports₂) := by
  obtain ⟨messages₁, sent₁, counter₁, bodies₁, framed₁⟩ := first
  obtain ⟨messages₂, sent₂, counter₂, bodies₂, framed₂⟩ := second
  refine ⟨messages₁ ++ messages₂, ?_, ?_, ?_, ?_⟩
  · rw [List.filterMap_append, sent₁, sent₂, counter₁, emitAll_append]
  · rw [counter₂, counter₁, emitAll_append]
  · simpa using fun message mem => (List.mem_append.mp mem).elim (bodies₁ message) (bodies₂ message)
  · rw [List.filterMap_append, List.map_append, framed₁, framed₂]

theorem reportPose_sendsFrom (exp : EmRemoteExperience) (predictedDisplayTime : XrTime)
    (located : XrResult × Posef) :
    SendsFrom exp (reportPose exp predictedDisplayTime located).exp
      (reportPose exp predictedDisplayTime located).calls [] := by
  rw [reportPose_eq]
  split_ifs
  · exact ⟨[{ tracking := some (.ofPose located.2) }], rfl, rfl,
      by simp [UpMessage.OneBody], rfl⟩
  · exact sendsFrom_nil exp

theorem reportFrameTiming_sendsFrom (exp : EmRemoteExperience)
    (beginFrameTime decodeEndTime : Timespec) (predictedDisplayTime : XrTime) (frameSequenceId : Int) :
    SendsFrom exp
      (reportFrameTiming convertTimespecTimeToTime exp beginFrameTime decodeEndTime
        predictedDisplayTime frameSequenceId).exp
      (reportFrameTiming convertTimespecTimeToTime exp beginFrameTime decodeEndTime
        predictedDisplayTime frameSequenceId).calls
      (if (convertTimespecTimeToTime decodeEndTime).isSome &&
          (convertTimespecTimeToTime beginFrameTime).isSome then [frameSequenceId] else []) := by
  rw [reportFrameTiming_eq]
  split
  · next decodeEnd beginFrame decoded begun =>
      simp only [decoded, begun, Option.isSome_some, Bool.and_self, if_true]
      exact ⟨[{ frame := some ⟨frameSequenceId, decodeEnd, beginFrame, predictedDisplayTime⟩ }],
        rfl, rfl, by simp [UpMessage.OneBody], rfl⟩
  · next notBoth =>
      have : ¬((convertTimespecTimeToTime decodeEndTime).isSome &&
          (convertTimespecTimeToTime beginFrameTime).isSome) := by
        cases decoded : convertTimespecTimeToTime decodeEndTime <;>
          cases begun : convertTimespecTimeToTime beginFrameTime <;> simp_all
      rw [if_neg this]
      exact sendsFrom_nil exp

/-- What a stretch of calls sends depends only on the messages among them and the counter it
starts from. -/
theorem SendsFrom.congr {exp exp₀ exp' : EmRemoteExperience} {calls calls' : List Call}
    {reports : List Int} (sends : SendsFrom exp exp' calls reports)
    (sent : calls'.filterMap Call.sentMessage = calls.filterMap Call.sentMessage)
    (counter : exp₀.nextUpMessage = exp.nextUpMessage) : SendsFrom exp₀ exp' calls' reports := by
  obtain ⟨messages, sentAll, counterAll, bodies, framed⟩ := sends
  exact ⟨messages, by rw [sent, sentAll, counter], by rw [counterAll, counter], bodies, framed⟩

/-- A calls list that sends nothing. -/
theorem sendsFrom_of_silent {exp : EmRemoteExperience} {calls : List Call}
    (silent : calls.filterMap Call.sentMessage = []) : SendsFrom exp exp calls [] :=
  (sendsFrom_nil exp).congr silent rfl

/-- A frame sends its timing report, when it is a `NEW_SAMPLE` frame whose times convert, and
then possibly the head pose, numbered on from the counter. -/
theorem pollAndRenderFrame_sendsFrom {exp : EmRemoteExperience} {input : FrameInputs}
    {frame : Effect} {result : EmPollRenderResult}
    (ran : pollAndRenderFrame convertTimespecTimeToTime exp input = some (frame, result)) :
    SendsFrom exp frame.exp frame.calls
      (if result = .newSample then (input.frameReport convertTimespecTimeToTime).toList else []) := by
  rcases pollAndRenderFrame_cases convertTimespecTimeToTime ran with
    ⟨-, rfl, rfl⟩ | ⟨-, -, -, rfl, rfl⟩ | ⟨beginTime, -, -, clock, ⟨-, rfl, rfl⟩ | ⟨-, -, rfl, rfl⟩ |
      ⟨-, -, rendered, envBlendMode, layers, composed, rfl⟩⟩
  · exact sendsFrom_of_silent rfl
  · exact sendsFrom_of_silent rfl
  · exact sendsFrom_of_silent rfl
  · exact sendsFrom_of_silent rfl
  suffices renderedSends : SendsFrom exp rendered.exp rendered.calls
      (if result = .newSample then (input.frameReport convertTimespecTimeToTime).toList else []) by
    have posed := renderedSends.append
      (reportPose_sendsFrom rendered.exp input.frameState.predictedDisplayTime input.locateSpace)
    rw [List.append_nil] at posed
    exact posed.congr (by simp [Call.sentMessage]) rfl
  rcases composeLayers_cases convertTimespecTimeToTime composed with
    ⟨-, rfl, rfl, -⟩ | ⟨-, layer, inner, -⟩
  · exact sendsFrom_of_silent rfl
  rcases innerPollAndRenderFrame_cases convertTimespecTimeToTime inner with
    ⟨-, rfl, rfl, -⟩ | ⟨sample, decodeEndTime, pulled, -, -, rfl, -, rfl⟩
  · have notNew : (if exp.prevSample.isSome then EmPollRenderResult.reusedSample
        else .noSampleAvailable) ≠ .newSample := by split_ifs <;> decide
    rw [if_neg notNew]
    exact sendsFrom_of_silent rfl
  have report : (input.frameReport convertTimespecTimeToTime).toList =
      if (convertTimespecTimeToTime decodeEndTime).isSome &&
          (convertTimespecTimeToTime beginTime).isSome then [sample.frameSequenceId] else [] := by
    simp only [FrameInputs.frameReport, pulled, clock]
    split_ifs <;> rfl
  rw [if_pos rfl, report]
  exact (reportFrameTiming_sendsFrom convertTimespecTimeToTime { exp with prevSample := some sample }
    beginTime decodeEndTime input.frameState.predictedDisplayTime sample.frameSequenceId).congr
    (by cases exp.prevSample <;> split_ifs <;> simp [Call.sentMessage]) rfl

/-- Over a run, the messages are stamped one after another from the counter, each with one
body, and the frame reports follow the `NEW_SAMPLE` frames whose times convert. -/
theorem runFrames_sendsFrom {exp : EmRemoteExperience} {inputs : List FrameInputs}
    {effect : Effect} {results : List EmPollRenderResult}
    (ran : runFrames convertTimespecTimeToTime exp inputs = some (effect, results)) :
    SendsFrom exp effect.exp effect.calls
      ((inputs.zip results).flatMap fun (input, result) =>
        if result = .newSample then (input.frameReport convertTimespecTimeToTime).toList else []) := by
  induction inputs generalizing exp effect results with
  | nil =>
      simp only [runFrames_nil, Option.some.injEq, Prod.mk.injEq] at ran
      obtain ⟨rfl, rfl⟩ := ran
      exact sendsFrom_nil exp
  | cons input inputs inductionHypothesis =>
      obtain ⟨frame, result, rest, restResults, framed, ranRest, rfl, rfl⟩ :=
        (runFrames_cons_eq_some convertTimespecTimeToTime).mp ran
      simpa using (pollAndRenderFrame_sendsFrom convertTimespecTimeToTime framed).append
        (inductionHypothesis ranRest)

/-- Over a run of the render loop from a fresh counter that emits fewer than `2^63 - 1`
messages, the messages handed to `em_connection_send_bytes` carry the ids `1, 2, 3, …` in
order, each carries exactly one of `tracking` and `frame`, and the frame reports carry, in
order, the sequence ids of the samples adopted in the `NEW_SAMPLE` frames whose two times
convert. -/
theorem upMessages_numbered_in_order {exp : EmRemoteExperience} {inputs : List FrameInputs}
    {effect : Effect} {results : List EmPollRenderResult} (firstId : exp.nextUpMessage = 1)
    (ran : runFrames convertTimespecTimeToTime exp inputs = some (effect, results))
    (fewer : (effect.calls.filterMap Call.sentMessage).length < 2 ^ 63 - 1) :
    (effect.calls.filterMap Call.sentMessage).map (·.upMessageId.toNat) =
        List.range' 1 (effect.calls.filterMap Call.sentMessage).length ∧
      (∀ message ∈ effect.calls.filterMap Call.sentMessage, message.OneBody) ∧
      ((effect.calls.filterMap Call.sentMessage).filterMap (·.frame)).map (·.frameSequenceId) =
        (inputs.zip results).flatMap fun (input, result) =>
          if result = .newSample then (input.frameReport convertTimespecTimeToTime).toList else [] := by
  obtain ⟨messages, sent, -, bodies, framed⟩ := runFrames_sendsFrom convertTimespecTimeToTime ran
  rw [firstId] at sent
  rw [sent] at fewer ⊢
  rw [emitAll_length] at fewer ⊢
  refine ⟨emitAll_ids (by simp; omega),
    (@forall_mem_emitAll UpMessage.OneBody (fun _ _ => Iff.rfl) 1 messages).mpr bodies, ?_⟩
  rw [@filterMap_emitAll _ (·.frame) (fun _ _ => rfl), framed]

/-- What the frames of `sampleThenStall` do, every time converting: they hold sample `7`, have
sent three messages, and return `NEW_SAMPLE` and `REUSED_SAMPLE`. -/
def sampleThenStallFrames : Effect × List EmPollRenderResult :=
  (⟨{ newExperience with prevSample := some sampleSeven, nextUpMessage := 4 }, sampleThenStallCalls⟩,
    [.newSample, .reusedSample])

theorem upMessages_numbered_in_order_sample_then_stall :
    newExperience.nextUpMessage = 1 ∧
      runFrames (fun time => some time.tvSec) newExperience sampleThenStall =
        some sampleThenStallFrames ∧
      (sampleThenStallFrames.1.calls.filterMap Call.sentMessage).length < 2 ^ 63 - 1 ∧
      (sampleThenStallFrames.1.calls.filterMap Call.sentMessage).map (·.upMessageId.toNat) =
        List.range' 1 (sampleThenStallFrames.1.calls.filterMap Call.sentMessage).length ∧
      (∀ message ∈ sampleThenStallFrames.1.calls.filterMap Call.sentMessage, message.OneBody) ∧
      ((sampleThenStallFrames.1.calls.filterMap Call.sentMessage).filterMap (·.frame)).map
          (·.frameSequenceId) =
        (sampleThenStall.zip sampleThenStallFrames.2).flatMap fun (input, result) =>
          if result = .newSample then
            (input.frameReport fun time => some time.tvSec).toList
          else [] :=
  ⟨rfl, rfl, by decide,
    @upMessages_numbered_in_order (fun time => some time.tvSec) newExperience sampleThenStall
      sampleThenStallFrames.1 sampleThenStallFrames.2 rfl rfl (by decide)⟩

end EmRemoteExperience

end Client
end ElectricMaple
