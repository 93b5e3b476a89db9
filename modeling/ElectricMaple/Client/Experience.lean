import Mathlib.Data.List.Basic

/-!
# The client's remote experience

`EmRemoteExperience` drives one OpenXR frame per call of `poll_and_render_frame`: it waits for
and begins the frame, pulls the newest decoded sample from the stream client, draws it into the
swapchain, ends the frame with the layers composed, and reports the head pose and the frame's
timing to the server as `UpMessage`s.

The runtime, the decoder and the passthrough policy are the environment: every answer they
give during one frame is a field of `FrameInputs`, and every call the experience makes on them
is logged as a `Call`. A failed `xrBeginFrame`, `xrAcquireSwapchainImage` or
`xrWaitSwapchainImage` aborts the process, so a frame returns `none`. Floats are carried as
their bit patterns, handles as numbers with `0` for `XR_NULL_HANDLE`, and a sample by the
address that identifies it.
-/

namespace ElectricMaple
namespace Client

/-- An `XrResult`; it failed when negative. -/
abbrev XrResult := Int

/-- `XR_SUCCESS`. -/
def xrSuccess : XrResult := 0

/-- `XR_FAILED`. -/
def XrResult.failed (result : XrResult) : Bool := decide (result < 0)

/-- An `XrTime` in nanoseconds. -/
abbrev XrTime := Int

/-- `XR_ENVIRONMENT_BLEND_MODE_OPAQUE`. -/
def xrEnvironmentBlendModeOpaque : Nat := 1

/-- A `struct timespec`. -/
structure Timespec where
  tvSec : Int
  tvNsec : Int
  deriving DecidableEq, Repr

/-- An `XrVector3f`, as the bit patterns of its floats. -/
structure Vector3f where
  x : UInt32 := 0
  y : UInt32 := 0
  z : UInt32 := 0
  deriving DecidableEq, Repr

/-- An `XrQuaternionf`, as the bit patterns of its floats. -/
structure Quaternionf where
  x : UInt32 := 0
  y : UInt32 := 0
  z : UInt32 := 0
  w : UInt32 := 0
  deriving DecidableEq, Repr

/-- An `XrPosef`; its default is the zero-initialised pose. -/
structure Posef where
  orientation : Quaternionf := {}
  position : Vector3f := {}
  deriving DecidableEq, Repr

/-- An `XrFovf`, as the bit patterns of its angles. -/
structure Fovf where
  angleLeft : UInt32 := 0
  angleRight : UInt32 := 0
  angleUp : UInt32 := 0
  angleDown : UInt32 := 0
  deriving DecidableEq, Repr

/-- An `XrView` located by `xrLocateViews`. -/
structure XrView where
  pose : Posef
  fov : Fovf
  deriving DecidableEq, Repr

/-- An `XrOffset2Di`. -/
structure Offset2Di where
  x : Int := 0
  y : Int := 0
  deriving DecidableEq, Repr

/-- An `XrExtent2Di`. -/
structure Extent2Di where
  width : Int := 0
  height : Int := 0
  deriving DecidableEq, Repr

/-- An `XrRect2Di`. -/
structure Rect2Di where
  offset : Offset2Di := {}
  extent : Extent2Di := {}
  deriving DecidableEq, Repr

/-- An `XrSwapchainSubImage`. -/
structure SwapchainSubImage where
  swapchain : Nat := 0
  imageRect : Rect2Di := {}
  deriving DecidableEq, Repr

/-- An `XrCompositionLayerProjectionView`; its default is the zero-initialised view. -/
structure ProjectionView where
  pose : Posef := {}
  fov : Fovf := {}
  subImage : SwapchainSubImage := {}
  deriving DecidableEq, Repr

/-- An `XrCompositionLayerProjection` with its two views. -/
structure CompositionLayerProjection where
  layerFlags : Nat := 0
  space : Nat := 0
  views : ProjectionView × ProjectionView := ({}, {})
  deriving DecidableEq, Repr

/-- `projectionViews[i].pose = poses[i]`. -/
def CompositionLayerProjection.withPoses (layer : CompositionLayerProjection)
    (poses : Posef × Posef) : CompositionLayerProjection :=
  { layer with views := ({ layer.views.1 with pose := poses.1 }, { layer.views.2 with pose := poses.2 }) }

/-- The poses of a projection layer's two views. -/
def CompositionLayerProjection.poses (layer : CompositionLayerProjection) : Posef × Posef :=
  (layer.views.1.pose, layer.views.2.pose)

@[simp] theorem CompositionLayerProjection.withPoses_poses (layer : CompositionLayerProjection)
    (poses : Posef × Posef) : (layer.withPoses poses).poses = poses := rfl

/-- A zero-initialised projection layer carries the zero pose. -/
@[simp] theorem CompositionLayerProjection.poses_default :
    ({} : CompositionLayerProjection).poses = ({}, {}) := rfl

@[simp] theorem CompositionLayerProjection.poses_setLayerFlags (layer : CompositionLayerProjection)
    (layerFlags : Nat) : { layer with layerFlags := layerFlags }.poses = layer.poses := rfl

/-- A layer handed to `xrEndFrame`: the passthrough policy's own layer, or the projection. -/
inductive CompositionLayer
  | passthrough (layer : Nat)
  | projection (layer : CompositionLayerProjection)
  deriving DecidableEq, Repr

/-- An `XrFrameEndInfo`. -/
structure FrameEndInfo where
  displayTime : XrTime
  environmentBlendMode : Nat
  layers : List CompositionLayer
  deriving DecidableEq, Repr

/-- The `XrFrameState` that `xrWaitFrame` fills in. -/
structure FrameState where
  predictedDisplayTime : XrTime
  shouldRender : Bool
  deriving DecidableEq, Repr

/-- What the passthrough policy's `composition_layer()` answers. -/
structure PassthroughCompositionLayer where
  compLayer : Option Nat
  envBlendMode : Nat
  projectionLayerFlags : Nat
  deriving DecidableEq, Repr

/-- A decoded `em_sample`, identified by its address. -/
structure EmSample where
  id : Nat
  envBlendMode : Nat
  additiveBlackThreshold : UInt32
  poses : Posef × Posef
  frameTextureId : Nat
  frameTextureTarget : Nat
  frameSequenceId : Int
  deriving DecidableEq, Repr

/-- The black threshold of a draw: `DefaultBlackThreshold`, or the sample's own. -/
inductive BlackThreshold
  | defaultBlackThreshold
  | ofSample (bits : UInt32)
  deriving DecidableEq, Repr

/-- A `Renderer::DrawInfo`. -/
structure DrawInfo where
  texture : Nat
  textureTarget : Nat
  alphaForAdditiveEnable : Bool
  blackThreshold : BlackThreshold
  deriving DecidableEq, Repr

/-- The pose field of an `em_proto_TrackingMessage`, with its `has_` flags as options. -/
structure ProtoPose where
  position : Option Vector3f
  orientation : Option Quaternionf
  deriving DecidableEq, Repr

/-- An `em_proto_TrackingMessage`. -/
structure TrackingMessage where
  pLocalSpaceViewSpace : Option ProtoPose
  deriving DecidableEq, Repr

/-- An `em_proto_UpFrameMessage`. -/
structure UpFrameMessage where
  frameSequenceId : Int
  decodeCompleteTime : XrTime
  beginFrameTime : XrTime
  displayTime : XrTime
  deriving DecidableEq, Repr

/-- An `em_proto_UpMessage`, with `up_message_id` as the bits of its `int64_t`. -/
structure UpMessage where
  upMessageId : UInt64 := 0
  tracking : Option TrackingMessage := none
  frame : Option UpFrameMessage := none
  deriving DecidableEq, Repr

/-- `em_poll_render_result`. -/
inductive EmPollRenderResult
  | errorWaitframe
  | shouldNotRender
  | errorEgl
  | noSampleAvailable
  | reusedSample
  | newSample
  deriving DecidableEq, Repr

/-- `em_poll_render_result_include_layer`: the frame has a projection layer to submit. -/
def EmPollRenderResult.includeLayer : EmPollRenderResult → Bool
  | .newSample | .reusedSample => true
  | _ => false

/-- A call the experience makes on the runtime, the stream client, the renderer or the
connection. -/
inductive Call
  | xrWaitFrame (result : XrResult)
  | xrBeginFrame
  | xrLocateViews (displayTime : XrTime) (space : Nat)
  | eglBeginPbuffer (current : Bool)
  | tryPullSample (sample : Option Nat)
  | readSample (sample : Nat)
  | setBlendMode (mode : Nat)
  | xrAcquireSwapchainImage (swapchain : Nat)
  | xrWaitSwapchainImage (swapchain : Nat)
  | glBindFramebuffer (imageIndex : Option Nat)
  | draw (info : DrawInfo)
  | xrReleaseSwapchainImage (swapchain : Nat)
  | releaseSample (sample : Nat)
  | xrEndFrame (info : FrameEndInfo)
  | eglEnd
  | xrLocateSpace (space baseSpace : Nat) (time : XrTime)
  | sendBytes (message : UpMessage)
  | streamClientStop
  | rendererReset
  | connectionDisconnect
  | streamClientDestroy
  | connectionUnref
  | swapchainBuffersReset
  | xrDestroySwapchain (swapchain : Nat)
  | xrDestroySpace (space : Nat)
  deriving DecidableEq, Repr

/-- The fields of `struct _EmRemoteExperience` that the render loop and the teardown use:
held references as flags, owned handles as numbers. -/
structure EmRemoteExperience where
  connection : Bool
  streamClient : Bool
  renderer : Bool
  prevSample : Option EmSample
  eyeExtents : Extent2Di
  worldSpace : Nat
  viewSpace : Nat
  swapchain : Nat
  nextUpMessage : UInt64
  deriving DecidableEq, Repr

/-- The experience a call leaves, with the calls it made. -/
structure Effect where
  exp : EmRemoteExperience
  calls : List Call
  deriving DecidableEq, Repr

/-- Every answer the environment gives during one call of `poll_and_render_frame`. -/
structure FrameInputs where
  waitFrame : XrResult
  frameState : FrameState
  beginFrame : XrResult
  clockGettime : Option Timespec
  locateViews : XrResult
  views : XrView × XrView
  eglBeginPbuffer : Bool
  /-- What `em_stream_client_try_pull_sample` returns, with the decode-end time it writes. -/
  pulled : Option (EmSample × Timespec)
  passthroughLayer : PassthroughCompositionLayer
  useAlphaBlendForAdditive : Bool
  /-- `xrAcquireSwapchainImage`'s result and the image index it writes. -/
  acquireSwapchainImage : XrResult × Nat
  waitSwapchainImage : XrResult
  /-- `xrLocateSpace`'s result and the pose it writes. -/
  locateSpace : XrResult × Posef
  deriving DecidableEq, Repr

/-- `em_proto_TrackingMessage` carrying a head pose, as `report_pose` fills it in. -/
def TrackingMessage.ofPose (pose : Posef) : TrackingMessage :=
  ⟨some ⟨some pose.position, some pose.orientation⟩⟩

namespace EmRemoteExperience

/- `xrConvertTimespecTimeToTimeKHR`, looked up at construction; `none` when it fails. -/
variable (convertTimespecTimeToTime : Timespec → Option XrTime)

/-- `em_remote_experience_emit_upmessage`: stamp the next id and send the message. -/
def emitUpmessage (exp : EmRemoteExperience) (upMessage : UpMessage) : Effect :=
  ⟨{ exp with nextUpMessage := exp.nextUpMessage + 1 },
    [.sendBytes { upMessage with upMessageId := exp.nextUpMessage }]⟩

/-- `em_remote_experience_report_pose`: locate the head and send it, unless locating fails. -/
def reportPose (exp : EmRemoteExperience) (predictedDisplayTime : XrTime)
    (located : XrResult × Posef) : Effect :=
  let locate := Call.xrLocateSpace exp.viewSpace exp.worldSpace predictedDisplayTime
  if located.1 ≠ xrSuccess then ⟨exp, [locate]⟩
  else
    let sent := exp.emitUpmessage { tracking := some (.ofPose located.2) }
    ⟨sent.exp, locate :: sent.calls⟩

/-- `report_frame_timing`: send the frame's timing, unless a time conversion fails. -/
def reportFrameTiming (exp : EmRemoteExperience) (beginFrameTime decodeEndTime : Timespec)
    (predictedDisplayTime : XrTime) (frameSequenceId : Int) : Effect :=
  match convertTimespecTimeToTime decodeEndTime, convertTimespecTimeToTime beginFrameTime with
  | some xrTimeDecodeEnd, some xrTimeBeginFrame =>
      exp.emitUpmessage
        { frame := some ⟨frameSequenceId, xrTimeDecodeEnd, xrTimeBeginFrame, predictedDisplayTime⟩ }
  | _, _ => ⟨exp, []⟩

/-- The first block of `inner_poll_and_render_frame`: the layer's space, and for each view
its field of view and its half of the side-by-side swapchain image. -/
def setUpProjectionViews (exp : EmRemoteExperience) (views : XrView × XrView)
    (projectionLayer : CompositionLayerProjection) : CompositionLayerProjection :=
  let width := exp.eyeExtents.width
  let height := exp.eyeExtents.height
  { projectionLayer with
    space := exp.worldSpace
    views :=
      ({ projectionLayer.views.1 with
          fov := views.1.fov
          subImage := ⟨exp.swapchain, ⟨⟨0, 0⟩, ⟨width, height⟩⟩⟩ },
        { projectionLayer.views.2 with
          fov := views.2.fov
          subImage := ⟨exp.swapchain, ⟨⟨width, 0⟩, ⟨width, height⟩⟩⟩ }) }

@[simp] theorem setUpProjectionViews_poses (exp : EmRemoteExperience) (views : XrView × XrView)
    (projectionLayer : CompositionLayerProjection) :
    (exp.setUpProjectionViews views projectionLayer).poses = projectionLayer.poses := rfl

/-- `em_remote_experience_inner_poll_and_render_frame`: fill in the projection views, pull a
sample, and if there is one draw it, release the previous sample, adopt the new one and
report the frame's timing. -/
def innerPollAndRenderFrame (exp : EmRemoteExperience) (beginFrameTime : Timespec)
    (predictedDisplayTime : XrTime) (views : XrView × XrView)
    (projectionLayer : CompositionLayerProjection) (input : FrameInputs) :
    Option (Effect × EmPollRenderResult × CompositionLayerProjection) :=
  let projectionLayer := exp.setUpProjectionViews views projectionLayer
  match input.pulled with
  | none =>
      some (⟨exp, [.tryPullSample none]⟩,
        if exp.prevSample.isSome then .reusedSample else .noSampleAvailable, projectionLayer)
  | some (sample, decodeEndTime) =>
      let blackThreshold :=
        if sample.envBlendMode ≠ 0 then BlackThreshold.ofSample sample.additiveBlackThreshold
        else .defaultBlackThreshold
      let setBlend := if sample.envBlendMode ≠ 0 then [Call.setBlendMode sample.envBlendMode] else []
      let projectionLayer := projectionLayer.withPoses sample.poses
      if input.acquireSwapchainImage.1.failed then none
      else if input.waitSwapchainImage.failed then none
      else
        let drawInfo : DrawInfo := ⟨sample.frameTextureId, sample.frameTextureTarget,
          input.useAlphaBlendForAdditive, blackThreshold⟩
        let timing := reportFrameTiming convertTimespecTimeToTime
          { exp with prevSample := some sample } beginFrameTime decodeEndTime predictedDisplayTime
          sample.frameSequenceId
        some (⟨timing.exp,
          [.tryPullSample (some sample.id), .readSample sample.id] ++ setBlend ++
            [.xrAcquireSwapchainImage exp.swapchain, .xrWaitSwapchainImage exp.swapchain,
              .glBindFramebuffer (some input.acquireSwapchainImage.2), .draw drawInfo,
              .glBindFramebuffer none, .xrReleaseSwapchainImage exp.swapchain] ++
            (exp.prevSample.map fun prev => Call.releaseSample prev.id).toList ++
            .readSample sample.id :: timing.calls⟩, .newSample, projectionLayer)

/-- The `if (shouldRender)` block of `poll_and_render_frame`: render, then compose the
passthrough layer and, when the result includes one, the projection layer; the frame's
blend mode and layers come with it. -/
def composeLayers (exp : EmRemoteExperience) (beginTime : Timespec) (input : FrameInputs) :
    Option (Effect × EmPollRenderResult × Nat × List CompositionLayer) :=
  if input.frameState.shouldRender then
    (innerPollAndRenderFrame convertTimespecTimeToTime exp beginTime
        input.frameState.predictedDisplayTime input.views {} input).map
      fun (rendered, prResult, layer) =>
        let passthroughLayer := input.passthroughLayer
        (rendered, prResult, passthroughLayer.envBlendMode,
          passthroughLayer.compLayer.toList.map .passthrough ++
            if prResult.includeLayer then
              [.projection { layer with
                layerFlags := layer.layerFlags ||| passthroughLayer.projectionLayerFlags }]
            else [])
  else some (⟨exp, []⟩, .shouldNotRender, xrEnvironmentBlendModeOpaque, [])

/-- `em_remote_experience_poll_and_render_frame`: one OpenXR frame. -/
def pollAndRenderFrame (exp : EmRemoteExperience) (input : FrameInputs) :
    Option (Effect × EmPollRenderResult) :=
  let waited := [Call.xrWaitFrame input.waitFrame]
  if input.waitFrame.failed then some (⟨exp, waited⟩, .errorWaitframe)
  else if input.beginFrame.failed then none
  else
    let begun := waited ++ [.xrBeginFrame]
    match input.clockGettime with
    | none => some (⟨exp, begun⟩, .shouldNotRender)
    | some beginTime =>
        let displayTime := input.frameState.predictedDisplayTime
        let located := begun ++ [.xrLocateViews displayTime exp.worldSpace]
        if input.locateViews.failed then some (⟨exp, located⟩, .shouldNotRender)
        else if !input.eglBeginPbuffer then
          some (⟨exp, located ++ [.eglBeginPbuffer false]⟩, .errorEgl)
        else
          (composeLayers convertTimespecTimeToTime exp beginTime input).map
            fun (rendered, prResult, envBlendMode, layers) =>
              let posed := reportPose rendered.exp displayTime input.locateSpace
              (⟨posed.exp, located ++ .eglBeginPbuffer true :: rendered.calls ++
                [.xrEndFrame ⟨displayTime, envBlendMode, layers⟩, .eglEnd] ++ posed.calls⟩,
                prResult)

/-- Frame after frame of the render loop; `none` when a frame aborts. -/
def runFrames (exp : EmRemoteExperience) : List FrameInputs → Option (Effect × List EmPollRenderResult)
  | [] => some (⟨exp, []⟩, [])
  | input :: inputs =>
      (pollAndRenderFrame convertTimespecTimeToTime exp input).bind fun (frame, result) =>
        (runFrames frame.exp inputs).map fun (rest, results) =>
          (⟨rest.exp, frame.calls ++ rest.calls⟩, result :: results)

/-- `em_remote_experience_dispose`: stop the stream client, drop the renderer inside an EGL
scope, release the held sample, and drop the connection. `eglCurrent` is what
`egl_begin_pbuffer` answers; the code does not look at it. -/
def dispose (exp : EmRemoteExperience) (eglCurrent : Bool) : Effect :=
  let stopCalls :=
    if exp.streamClient then
      Call.streamClientStop ::
        (if exp.renderer then [Call.eglBeginPbuffer eglCurrent, .rendererReset, .eglEnd] else []) ++
        (exp.prevSample.map fun prev => Call.releaseSample prev.id).toList
    else []
  let stopped :=
    if exp.streamClient then { exp with renderer := false, prevSample := none } else exp
  ⟨{ stopped with connection := false, streamClient := false, renderer := false },
    stopCalls ++ (if exp.connection then [.connectionDisconnect] else []) ++
      .streamClientDestroy :: (if exp.connection then [.connectionUnref] else []) ++
      .swapchainBuffersReset :: (if stopped.renderer then [.rendererReset] else [])⟩

/-- `em_remote_experience_finalize`: destroy the owned swapchain and spaces. -/
def finalize (exp : EmRemoteExperience) : Effect :=
  ⟨{ exp with swapchain := 0, viewSpace := 0, worldSpace := 0 },
    (if exp.swapchain ≠ 0 then [.xrDestroySwapchain exp.swapchain] else []) ++
      (if exp.viewSpace ≠ 0 then [.xrDestroySpace exp.viewSpace] else []) ++
      (if exp.worldSpace ≠ 0 then [.xrDestroySpace exp.worldSpace] else [])⟩

/-- `em_remote_experience_destroy`: dispose, then finalize. -/
def destroy (exp : EmRemoteExperience) (eglCurrent : Bool) : Effect :=
  let disposed := exp.dispose eglCurrent
  let finalized := disposed.exp.finalize
  ⟨finalized.exp, disposed.calls ++ finalized.calls⟩

/-- The render loop's frames, then `em_remote_experience_destroy`. -/
def runThenDestroy (exp : EmRemoteExperience) (inputs : List FrameInputs) (eglCurrent : Bool) :
    Option (Effect × List EmPollRenderResult) :=
  (runFrames convertTimespecTimeToTime exp inputs).map fun (frames, results) =>
    let destroyed := frames.exp.destroy eglCurrent
    (⟨destroyed.exp, frames.calls ++ destroyed.calls⟩, results)


/-! ## What each function can do -/

@[simp] theorem emitUpmessage_exp (exp : EmRemoteExperience) (upMessage : UpMessage) :
    (exp.emitUpmessage upMessage).exp = { exp with nextUpMessage := exp.nextUpMessage + 1 } := rfl

@[simp] theorem emitUpmessage_calls (exp : EmRemoteExperience) (upMessage : UpMessage) :
    (exp.emitUpmessage upMessage).calls =
      [.sendBytes { upMessage with upMessageId := exp.nextUpMessage }] := rfl

/-- Reporting the pose sends the tracking message exactly when the head was located. -/
theorem reportPose_eq (exp : EmRemoteExperience) (predictedDisplayTime : XrTime)
    (located : XrResult × Posef) :
    reportPose exp predictedDisplayTime located =
      if located.1 = xrSuccess then
        ⟨{ exp with nextUpMessage := exp.nextUpMessage + 1 },
          [.xrLocateSpace exp.viewSpace exp.worldSpace predictedDisplayTime,
            .sendBytes { upMessageId := exp.nextUpMessage, tracking := some (.ofPose located.2) }]⟩
      else ⟨exp, [.xrLocateSpace exp.viewSpace exp.worldSpace predictedDisplayTime]⟩ := by
  unfold reportPose
  split_ifs <;> first | rfl | contradiction

/-- Reporting the pose changes only the message counter. -/
theorem reportPose_exp (exp : EmRemoteExperience) (predictedDisplayTime : XrTime)
    (located : XrResult × Posef) :
    (reportPose exp predictedDisplayTime located).exp =
      { exp with nextUpMessage := (reportPose exp predictedDisplayTime located).exp.nextUpMessage } := by
  rw [reportPose_eq]
  split_ifs <;> rfl

/-- Seen through any view of the calls that ignores `xrLocateSpace` and sends, reporting the
pose makes no call. -/
theorem filterMap_reportPose_calls {β : Type} {view : Call → Option β}
    (ignoresLocate : ∀ space baseSpace time, view (.xrLocateSpace space baseSpace time) = none)
    (ignoresSend : ∀ message, view (.sendBytes message) = none) (exp : EmRemoteExperience)
    (predictedDisplayTime : XrTime) (located : XrResult × Posef) :
    (reportPose exp predictedDisplayTime located).calls.filterMap view = [] := by
  rw [reportPose_eq]
  split_ifs <;> simp [ignoresLocate, ignoresSend]

/-- Reporting the frame's timing sends the frame message exactly when both times convert. -/
theorem reportFrameTiming_eq (exp : EmRemoteExperience) (beginFrameTime decodeEndTime : Timespec)
    (predictedDisplayTime : XrTime) (frameSequenceId : Int) :
    reportFrameTiming convertTimespecTimeToTime exp beginFrameTime decodeEndTime
        predictedDisplayTime frameSequenceId =
      match convertTimespecTimeToTime decodeEndTime, convertTimespecTimeToTime beginFrameTime with
      | some xrTimeDecodeEnd, some xrTimeBeginFrame =>
          ⟨{ exp with nextUpMessage := exp.nextUpMessage + 1 },
            [.sendBytes
              { upMessageId := exp.nextUpMessage
                frame := some ⟨frameSequenceId, xrTimeDecodeEnd, xrTimeBeginFrame,
                  predictedDisplayTime⟩ }]⟩
      | _, _ => ⟨exp, []⟩ := by
  unfold reportFrameTiming
  split <;> rfl

/-- Seen through any view of the calls that ignores sends, reporting the frame's timing makes
no call. -/
theorem filterMap_reportFrameTiming_calls {β : Type} {view : Call → Option β}
    (ignoresSend : ∀ message, view (.sendBytes message) = none) (exp : EmRemoteExperience)
    (beginFrameTime decodeEndTime : Timespec) (predictedDisplayTime : XrTime) (frameSequenceId : Int) :
    (reportFrameTiming convertTimespecTimeToTime exp beginFrameTime decodeEndTime
      predictedDisplayTime frameSequenceId).calls.filterMap view = [] := by
  rw [reportFrameTiming_eq]
  split <;> simp [ignoresSend]

/-- Reporting the frame's timing changes only the message counter. -/
theorem reportFrameTiming_exp (exp : EmRemoteExperience) (beginFrameTime decodeEndTime : Timespec)
    (predictedDisplayTime : XrTime) (frameSequenceId : Int) :
    (reportFrameTiming convertTimespecTimeToTime exp beginFrameTime decodeEndTime
        predictedDisplayTime frameSequenceId).exp =
      { exp with
        nextUpMessage := (reportFrameTiming convertTimespecTimeToTime exp beginFrameTime
          decodeEndTime predictedDisplayTime frameSequenceId).exp.nextUpMessage } := by
  rw [reportFrameTiming_eq]
  split <;> rfl

theorem innerPollAndRenderFrame_cases {exp : EmRemoteExperience} {beginFrameTime : Timespec}
    {predictedDisplayTime : XrTime} {views : XrView × XrView}
    {projectionLayer : CompositionLayerProjection} {input : FrameInputs} {rendered : Effect}
    {result : EmPollRenderResult} {layer : CompositionLayerProjection}
    (ran : innerPollAndRenderFrame convertTimespecTimeToTime exp beginFrameTime predictedDisplayTime
      views projectionLayer input = some (rendered, result, layer)) :
    (input.pulled = none ∧ rendered = ⟨exp, [.tryPullSample none]⟩ ∧
      result = (if exp.prevSample.isSome then .reusedSample else .noSampleAvailable) ∧
      layer = exp.setUpProjectionViews views projectionLayer) ∨
    (∃ sample decodeEndTime, input.pulled = some (sample, decodeEndTime) ∧
      input.acquireSwapchainImage.1.failed = false ∧ input.waitSwapchainImage.failed = false ∧
      result = .newSample ∧
      layer = (exp.setUpProjectionViews views projectionLayer).withPoses sample.poses ∧
      let timing := reportFrameTiming convertTimespecTimeToTime { exp with prevSample := some sample }
        beginFrameTime decodeEndTime predictedDisplayTime sample.frameSequenceId
      rendered = ⟨timing.exp,
        [.tryPullSample (some sample.id), .readSample sample.id] ++
          (if sample.envBlendMode ≠ 0 then [Call.setBlendMode sample.envBlendMode] else []) ++
          [.xrAcquireSwapchainImage exp.swapchain, .xrWaitSwapchainImage exp.swapchain,
            .glBindFramebuffer (some input.acquireSwapchainImage.2),
            .draw ⟨sample.frameTextureId, sample.frameTextureTarget, input.useAlphaBlendForAdditive,
              if sample.envBlendMode ≠ 0 then .ofSample sample.additiveBlackThreshold
              else .defaultBlackThreshold⟩,
            .glBindFramebuffer none, .xrReleaseSwapchainImage exp.swapchain] ++
          (exp.prevSample.map fun prev => Call.releaseSample prev.id).toList ++
          .readSample sample.id :: timing.calls⟩) := by
  unfold innerPollAndRenderFrame at ran
  split at ran
  · next pulledNone =>
      simp only [Option.some.injEq, Prod.mk.injEq] at ran
      exact .inl ⟨pulledNone, ran.1.symm, ran.2.1.symm, ran.2.2.symm⟩
  · next sample decodeEndTime pulledSome =>
      cases acquireFailed : input.acquireSwapchainImage.1.failed
      case true => simp [acquireFailed] at ran
      cases waitFailed : input.waitSwapchainImage.failed
      case true => simp [acquireFailed, waitFailed] at ran
      simp only [acquireFailed, waitFailed, Bool.false_eq_true, if_false, Option.some.injEq,
        Prod.mk.injEq] at ran
      exact .inr ⟨sample, decodeEndTime, pulledSome, rfl, rfl, ran.2.1.symm, ran.2.2.symm, ran.1.symm⟩

theorem composeLayers_cases {exp : EmRemoteExperience} {beginTime : Timespec}
    {input : FrameInputs} {rendered : Effect} {result : EmPollRenderResult} {envBlendMode : Nat}
    {layers : List CompositionLayer}
    (ran : composeLayers convertTimespecTimeToTime exp beginTime input =
      some (rendered, result, envBlendMode, layers)) :
    (input.frameState.shouldRender = false ∧ rendered = ⟨exp, []⟩ ∧ result = .shouldNotRender ∧
      envBlendMode = xrEnvironmentBlendModeOpaque ∧ layers = []) ∨
    (input.frameState.shouldRender = true ∧ ∃ layer,
      innerPollAndRenderFrame convertTimespecTimeToTime exp beginTime
        input.frameState.predictedDisplayTime input.views {} input = some (rendered, result, layer) ∧
      envBlendMode = input.passthroughLayer.envBlendMode ∧
      layers = input.passthroughLayer.compLayer.toList.map .passthrough ++
        if result.includeLayer then
          [.projection { layer with
            layerFlags := layer.layerFlags ||| input.passthroughLayer.projectionLayerFlags }]
        else []) := by
  unfold composeLayers at ran
  split at ran
  · next shouldRender =>
      obtain ⟨⟨rendered', result', layer⟩, inner, composed⟩ := Option.map_eq_some'.mp ran
      simp only [Prod.mk.injEq] at composed
      obtain ⟨rfl, rfl, rfl, rfl⟩ := composed
      exact .inr ⟨shouldRender, layer, inner, rfl, rfl⟩
  · next shouldNotRender =>
      simp only [Option.some.injEq, Prod.mk.injEq] at ran
      exact .inl ⟨by simpa using shouldNotRender, ran.1.symm, ran.2.1.symm, ran.2.2.1.symm,
        ran.2.2.2.symm⟩

theorem pollAndRenderFrame_cases {exp : EmRemoteExperience} {input : FrameInputs}
    {frame : Effect} {result : EmPollRenderResult}
    (ran : pollAndRenderFrame convertTimespecTimeToTime exp input = some (frame, result)) :
    (input.waitFrame.failed = true ∧ frame = ⟨exp, [.xrWaitFrame input.waitFrame]⟩ ∧
      result = .errorWaitframe) ∨
    (input.waitFrame.failed = false ∧ input.beginFrame.failed = false ∧
      input.clockGettime = none ∧ frame = ⟨exp, [.xrWaitFrame input.waitFrame, .xrBeginFrame]⟩ ∧
      result = .shouldNotRender) ∨
    (∃ beginTime, input.waitFrame.failed = false ∧ input.beginFrame.failed = false ∧
      input.clockGettime = some beginTime ∧
      let located := [.xrWaitFrame input.waitFrame, .xrBeginFrame,
        .xrLocateViews input.frameState.predictedDisplayTime exp.worldSpace]
      ((input.locateViews.failed = true ∧ frame = ⟨exp, located⟩ ∧ result = .shouldNotRender) ∨
      (input.locateViews.failed = false ∧ input.eglBeginPbuffer = false ∧
        frame = ⟨exp, located ++ [.eglBeginPbuffer false]⟩ ∧ result = .errorEgl) ∨
      (input.locateViews.failed = false ∧ input.eglBeginPbuffer = true ∧
        ∃ rendered envBlendMode layers,
          composeLayers convertTimespecTimeToTime exp beginTime input =
            some (rendered, result, envBlendMode, layers) ∧
          let posed := reportPose rendered.exp input.frameState.predictedDisplayTime input.locateSpace
          frame = ⟨posed.exp, located ++ .eglBeginPbuffer true :: rendered.calls ++
            [.xrEndFrame ⟨input.frameState.predictedDisplayTime, envBlendMode, layers⟩, .eglEnd] ++
            posed.calls⟩))) := by
  unfold pollAndRenderFrame at ran
  cases waitFailed : input.waitFrame.failed
  case true =>
    simp only [waitFailed, if_true, Option.some.injEq, Prod.mk.injEq] at ran
    exact .inl ⟨rfl, ran.1.symm, ran.2.symm⟩
  cases beginFailed : input.beginFrame.failed
  case true => simp [waitFailed, beginFailed] at ran
  simp only [waitFailed, beginFailed, Bool.false_eq_true, if_false] at ran
  cases clock : input.clockGettime with
  | none =>
      simp only [clock, Option.some.injEq, Prod.mk.injEq] at ran
      exact .inr (.inl ⟨rfl, rfl, rfl, ran.1.symm, ran.2.symm⟩)
  | some beginTime =>
      refine .inr (.inr ⟨beginTime, rfl, rfl, rfl, ?_⟩)
      simp only [clock] at ran
      cases locateFailed : input.locateViews.failed
      case true =>
        simp only [locateFailed, if_true, Option.some.injEq, Prod.mk.injEq] at ran
        exact .inl ⟨rfl, ran.1.symm, ran.2.symm⟩
      cases egl : input.eglBeginPbuffer
      case false =>
        simp only [locateFailed, egl, Bool.not_false, if_true, Bool.false_eq_true, if_false,
          Option.some.injEq, Prod.mk.injEq] at ran
        exact .inr (.inl ⟨rfl, rfl, ran.1.symm, ran.2.symm⟩)
      simp only [locateFailed, egl, Bool.not_true, Bool.false_eq_true, if_false] at ran
      obtain ⟨⟨rendered, result', envBlendMode, layers⟩, composed, submitted⟩ :=
        Option.map_eq_some'.mp ran
      simp only [Prod.mk.injEq] at submitted
      obtain ⟨rfl, rfl⟩ := submitted
      exact .inr (.inr ⟨rfl, rfl, rendered, envBlendMode, layers, composed, rfl⟩)

/-- A frame changes only the held sample and the message counter. -/
theorem pollAndRenderFrame_exp {exp : EmRemoteExperience} {input : FrameInputs}
    {frame : Effect} {result : EmPollRenderResult}
    (ran : pollAndRenderFrame convertTimespecTimeToTime exp input = some (frame, result)) :
    frame.exp =
      { exp with
        prevSample := frame.exp.prevSample
        nextUpMessage := frame.exp.nextUpMessage } := by
  rcases pollAndRenderFrame_cases convertTimespecTimeToTime ran with
    ⟨-, rfl, -⟩ | ⟨-, -, -, rfl, -⟩ | ⟨beginTime, -, -, -, ⟨-, rfl, -⟩ | ⟨-, -, rfl, -⟩ |
      ⟨-, -, rendered, envBlendMode, layers, composed, rfl⟩⟩
  · rfl
  · rfl
  · rfl
  · rfl
  rw [reportPose_exp]
  rcases composeLayers_cases convertTimespecTimeToTime composed with
    ⟨-, rfl, -⟩ | ⟨-, layer, inner, -⟩
  · rfl
  rcases innerPollAndRenderFrame_cases convertTimespecTimeToTime inner with
    ⟨-, rfl, -⟩ | ⟨sample, decodeEndTime, -, -, -, -, -, rfl⟩
  · rfl
  · rw [reportFrameTiming_exp]

/-! ## Runs of the render loop -/

@[simp] theorem runFrames_nil (exp : EmRemoteExperience) :
    runFrames convertTimespecTimeToTime exp [] = some (⟨exp, []⟩, []) := rfl

theorem runFrames_cons_eq_some {exp : EmRemoteExperience} {input : FrameInputs}
    {inputs : List FrameInputs} {effect : Effect} {results : List EmPollRenderResult} :
    runFrames convertTimespecTimeToTime exp (input :: inputs) = some (effect, results) ↔
      ∃ frame result rest restResults,
        pollAndRenderFrame convertTimespecTimeToTime exp input = some (frame, result) ∧
        runFrames convertTimespecTimeToTime frame.exp inputs = some (rest, restResults) ∧
        effect = ⟨rest.exp, frame.calls ++ rest.calls⟩ ∧ results = result :: restResults := by
  simp only [runFrames, Option.bind_eq_some, Option.map_eq_some', Prod.exists, Prod.mk.injEq]
  constructor
  · rintro ⟨frame, result, framed, rest, restResults, ran, rfl, rfl⟩
    exact ⟨frame, result, rest, restResults, framed, ran, rfl, rfl⟩
  · rintro ⟨frame, result, rest, restResults, framed, ran, rfl, rfl⟩
    exact ⟨frame, result, framed, rest, restResults, ran, rfl, rfl⟩

theorem runFrames_append_eq_some {exp : EmRemoteExperience} {done rest : List FrameInputs}
    {effect : Effect} {results : List EmPollRenderResult} :
    runFrames convertTimespecTimeToTime exp (done ++ rest) = some (effect, results) ↔
      ∃ first firstResults second secondResults,
        runFrames convertTimespecTimeToTime exp done = some (first, firstResults) ∧
        runFrames convertTimespecTimeToTime first.exp rest = some (second, secondResults) ∧
        effect = ⟨second.exp, first.calls ++ second.calls⟩ ∧
        results = firstResults ++ secondResults := by
  induction done generalizing exp effect results with
  | nil =>
      simp only [List.nil_append, runFrames_nil, Option.some.injEq, Prod.mk.injEq]
      constructor
      · intro ran
        exact ⟨⟨exp, []⟩, [], effect, results, ⟨rfl, rfl⟩, ran, rfl, rfl⟩
      · rintro ⟨first, firstResults, second, secondResults, ⟨rfl, rfl⟩, ran, rfl, rfl⟩
        exact ran
  | cons input done inductionHypothesis =>
      simp only [List.cons_append, runFrames_cons_eq_some, inductionHypothesis]
      constructor
      · rintro ⟨frame, result, tail, tailResults, framed,
          ⟨first, firstResults, second, secondResults, ranFirst, ranSecond, rfl, rfl⟩, rfl, rfl⟩
        exact ⟨⟨first.exp, frame.calls ++ first.calls⟩, result :: firstResults, second,
          secondResults, ⟨frame, result, first, firstResults, framed, ranFirst, rfl, rfl⟩,
          ranSecond, by simp, rfl⟩
      · rintro ⟨_, _, second, secondResults,
          ⟨frame, result, first, firstResults, framed, ranFirst, rfl, rfl⟩, ranSecond, rfl, rfl⟩
        exact ⟨frame, result, ⟨second.exp, first.calls ++ second.calls⟩,
          firstResults ++ secondResults, framed,
          ⟨first, firstResults, second, secondResults, ranFirst, ranSecond, rfl, rfl⟩,
          by simp, rfl⟩

/-- What every frame keeps of the experience and of the calls made so far holds after a run. -/
theorem runFrames_preserves (keeps : EmRemoteExperience → List Call → Prop)
    {exp : EmRemoteExperience} {inputs : List FrameInputs} {effect : Effect}
    {results : List EmPollRenderResult}
    (preserved : ∀ input ∈ inputs, ∀ exp calls frame result, keeps exp calls →
      pollAndRenderFrame convertTimespecTimeToTime exp input = some (frame, result) →
      keeps frame.exp (calls ++ frame.calls))
    (start : keeps exp []) (ran : runFrames convertTimespecTimeToTime exp inputs = some (effect, results)) :
    keeps effect.exp effect.calls := by
  suffices general : ∀ calls, keeps exp calls →
      keeps effect.exp (calls ++ effect.calls) by simpa using general [] start
  clear start
  induction inputs generalizing exp effect results with
  | nil =>
      simp only [runFrames_nil, Option.some.injEq, Prod.mk.injEq] at ran
      obtain ⟨rfl, -⟩ := ran
      simp
  | cons input inputs inductionHypothesis =>
      obtain ⟨frame, result, rest, restResults, framed, ranRest, rfl, -⟩ :=
        (runFrames_cons_eq_some convertTimespecTimeToTime).mp ran
      intro calls kept
      have next := preserved input (List.mem_cons_self _ _) exp calls frame result kept framed
      simpa using inductionHypothesis (fun input mem => preserved input (List.mem_cons_of_mem _ mem))
        ranRest (calls ++ frame.calls) next

end EmRemoteExperience

end Client
end ElectricMaple
