import ElectricMaple.Client.Ownership

/-!
# Submitting frames

OpenXR pairs every `xrBeginFrame` with one `xrEndFrame`, and reprojects a projection layer
by the poses it carries. `poll_and_render_frame` calls `xrEndFrame` only when `xrWaitFrame`,
`clock_gettime`, `xrLocateViews` and `egl_begin_pbuffer` all succeed, so each of the three early
returns after `xrBeginFrame` leaves the frame open; and a frame that reuses the held sample
submits its projection views' zero-initialised poses, not that sample's poses.
-/

namespace ElectricMaple
namespace Client

/-- An OpenXR frame call, as the runtime orders them. -/
inductive FrameCall
  | waitFrame (succeeded : Bool)
  | beginFrame
  | endFrame
  deriving DecidableEq, Repr

/-- The frame call a call is, if any. -/
def Call.frameCall : Call → Option FrameCall
  | .xrWaitFrame result => some (.waitFrame !result.failed)
  | .xrBeginFrame => some .beginFrame
  | .xrEndFrame _ => some .endFrame
  | _ => none

/-- The `XrFrameEndInfo` an `xrEndFrame` submits. -/
def Call.endFrameInfo : Call → Option FrameEndInfo
  | .xrEndFrame info => some info
  | _ => none

theorem Call.endFrameInfo_eq_none {call : Call} (noFrameCall : call.frameCall = none) :
    call.endFrameInfo = none := by
  cases call <;> simp_all [Call.frameCall, Call.endFrameInfo]

/-- The projection layer a layer is, if any. -/
def CompositionLayer.projectionLayer : CompositionLayer → Option CompositionLayerProjection
  | .projection layer => some layer
  | .passthrough _ => none

@[simp] theorem filterMap_projectionLayer_passthrough (layers : List Nat) :
    layers.filterMap (CompositionLayer.projectionLayer ∘ CompositionLayer.passthrough) = [] := by
  simp [CompositionLayer.projectionLayer]

/-- The projection layers among the submitted layers. -/
def FrameEndInfo.projections (info : FrameEndInfo) : List CompositionLayerProjection :=
  info.layers.filterMap CompositionLayer.projectionLayer

/-- The frame calls a frame makes, by what the runtime answers: `xrEndFrame` follows
`xrBeginFrame` only when `clock_gettime`, `xrLocateViews` and `egl_begin_pbuffer` succeed. -/
def FrameInputs.frameCalls (input : FrameInputs) : List FrameCall :=
  if input.waitFrame.failed then [.waitFrame false]
  else if input.clockGettime.isSome && !input.locateViews.failed && input.eglBeginPbuffer then
    [.waitFrame true, .beginFrame, .endFrame]
  else [.waitFrame true, .beginFrame]

namespace EmRemoteExperience

variable (convertTimespecTimeToTime : Timespec → Option XrTime)

/-- Rendering makes no frame call. -/
theorem composeLayers_frameCalls {exp : EmRemoteExperience} {beginTime : Timespec}
    {input : FrameInputs} {rendered : Effect} {result : EmPollRenderResult} {envBlendMode : Nat}
    {layers : List CompositionLayer}
    (composed : composeLayers convertTimespecTimeToTime exp beginTime input =
      some (rendered, result, envBlendMode, layers)) :
    rendered.calls.filterMap Call.frameCall = [] := by
  rcases composeLayers_cases convertTimespecTimeToTime composed with
    ⟨-, rfl, -⟩ | ⟨-, layer, inner, -⟩
  · rfl
  rcases innerPollAndRenderFrame_cases convertTimespecTimeToTime inner with
    ⟨-, rfl, -⟩ | ⟨sample, decodeEndTime, -, -, -, -, -, rfl⟩
  · rfl
  cases exp.prevSample <;>
    simp [Call.frameCall, filterMap_reportFrameTiming_calls convertTimespecTimeToTime,
      apply_ite (List.filterMap Call.frameCall)]

/-- The frame calls of one frame are those its answers call for. -/
theorem pollAndRenderFrame_frameCalls {exp : EmRemoteExperience} {input : FrameInputs}
    {frame : Effect} {result : EmPollRenderResult}
    (ran : pollAndRenderFrame convertTimespecTimeToTime exp input = some (frame, result)) :
    frame.calls.filterMap Call.frameCall = input.frameCalls := by
  rcases pollAndRenderFrame_cases convertTimespecTimeToTime ran with
    ⟨failed, rfl, -⟩ | ⟨waited, -, clock, rfl, -⟩ | ⟨beginTime, waited, -, clock,
      ⟨located, rfl, -⟩ | ⟨located, egl, rfl, -⟩ | ⟨located, egl, rendered, envBlendMode, layers,
        composed, rfl⟩⟩
  · simp [FrameInputs.frameCalls, Call.frameCall, failed]
  · simp [FrameInputs.frameCalls, Call.frameCall, waited, clock]
  · simp [FrameInputs.frameCalls, Call.frameCall, waited, clock, located]
  · simp [FrameInputs.frameCalls, Call.frameCall, waited, clock, located, egl]
  · have noReport : ∀ exp time located,
        (reportPose exp time located).calls.filterMap Call.frameCall = [] :=
      filterMap_reportPose_calls (fun _ _ _ => rfl) (fun _ => rfl)
    simp [FrameInputs.frameCalls, Call.frameCall, waited, clock, located, egl,
      composeLayers_frameCalls convertTimespecTimeToTime composed, noReport]

/-- Over a run of the render loop, the frame calls are, frame after frame, those the runtime's
answers call for. -/
theorem runFrames_frameCalls {exp : EmRemoteExperience} {inputs : List FrameInputs}
    {effect : Effect} {results : List EmPollRenderResult}
    (ran : runFrames convertTimespecTimeToTime exp inputs = some (effect, results)) :
    effect.calls.filterMap Call.frameCall = inputs.flatMap FrameInputs.frameCalls := by
  induction inputs generalizing exp effect results with
  | nil =>
      simp only [runFrames_nil, Option.some.injEq, Prod.mk.injEq] at ran
      simp [← ran.1]
  | cons input inputs inductionHypothesis =>
      obtain ⟨frame, result, rest, restResults, framed, ranRest, rfl, -⟩ :=
        (runFrames_cons_eq_some convertTimespecTimeToTime).mp ran
      simp [pollAndRenderFrame_frameCalls convertTimespecTimeToTime framed,
        inductionHypothesis ranRest]

/-- A frame whose `clock_gettime` fails after `xrBeginFrame`. -/
def clockFails : FrameInputs := { healthyFrame none with clockGettime := none }

/-- After a frame whose `clock_gettime` fails, the next frame begins while the first is still
open: two `xrBeginFrame` calls with no `xrEndFrame` between them. -/
theorem clockFailure_leaves_frame_open :
    (runFrames (fun time => some time.tvSec) newExperience [clockFails, healthyFrame none]).map
        (fun run => run.1.calls.filterMap Call.frameCall) =
      some [.waitFrame true, .beginFrame, .waitFrame true, .beginFrame, .endFrame] := by
  decide

/-- The projection layer a frame submits carries the poses of the sample it adopted in a
`NEW_SAMPLE` frame, and the zero pose in a `REUSED_SAMPLE` frame; no other frame submits one. -/
theorem pollAndRenderFrame_projectionPoses {exp : EmRemoteExperience} {input : FrameInputs}
    {frame : Effect} {result : EmPollRenderResult}
    (ran : pollAndRenderFrame convertTimespecTimeToTime exp input = some (frame, result)) :
    ∀ info ∈ frame.calls.filterMap Call.endFrameInfo,
      info.projections.map (·.poses) =
        if result = .newSample then (frame.exp.prevSample.map (·.poses)).toList
        else if result = .reusedSample then [({}, {})] else [] := by
  rcases pollAndRenderFrame_cases convertTimespecTimeToTime ran with
    ⟨-, rfl, -⟩ | ⟨-, -, -, rfl, -⟩ | ⟨beginTime, -, -, -, ⟨-, rfl, -⟩ | ⟨-, -, rfl, -⟩ |
      ⟨-, -, rendered, envBlendMode, layers, composed, rfl⟩⟩
  · simp [Call.endFrameInfo]
  · simp [Call.endFrameInfo]
  · simp [Call.endFrameInfo]
  · simp [Call.endFrameInfo]
  have noReport : ∀ exp time located,
      (reportPose exp time located).calls.filterMap Call.endFrameInfo = [] :=
    filterMap_reportPose_calls (fun _ _ _ => rfl) (fun _ => rfl)
  have renderedNone : rendered.calls.filterMap Call.endFrameInfo = [] :=
    List.filterMap_eq_nil_iff.mpr fun call mem => Call.endFrameInfo_eq_none
      (List.filterMap_eq_nil_iff.mp (composeLayers_frameCalls convertTimespecTimeToTime composed) call mem)
  simp only [List.filterMap_append, List.filterMap_cons, renderedNone, Call.endFrameInfo,
    noReport, List.nil_append, List.append_nil, List.mem_singleton, forall_eq]
  rw [reportPose_exp]
  rcases composeLayers_cases convertTimespecTimeToTime composed with
    ⟨-, rfl, rfl, -, rfl⟩ | ⟨-, layer, inner, -, rfl⟩
  · simp [FrameEndInfo.projections]
  rcases innerPollAndRenderFrame_cases convertTimespecTimeToTime inner with
    ⟨-, rfl, rfl, rfl⟩ | ⟨sample, decodeEndTime, -, -, -, rfl, rfl, rfl⟩
  · cases exp.prevSample <;>
      simp [FrameEndInfo.projections, CompositionLayer.projectionLayer,
        EmPollRenderResult.includeLayer]
  · rw [reportFrameTiming_exp]
    simp [FrameEndInfo.projections, CompositionLayer.projectionLayer,
      EmPollRenderResult.includeLayer]

/-- The first frame adopts sample `7` and submits its poses; the second finds no sample,
reuses sample `7`, and submits the zero pose instead of sample `7`'s poses. -/
theorem reusedSample_frame_submits_zero_poses :
    (runFrames (fun time => some time.tvSec) newExperience sampleThenStall).map (fun run =>
        (run.2, run.1.exp.prevSample.map (·.poses),
          (run.1.calls.filterMap Call.endFrameInfo).map fun info => info.projections.map (·.poses))) =
      some ([.newSample, .reusedSample], some sampleSeven.poses,
        [[sampleSeven.poses], [({}, {})]]) := by
  decide

end EmRemoteExperience

end Client
end ElectricMaple
