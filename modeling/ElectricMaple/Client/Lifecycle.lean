import ElectricMaple.Client.Initialisation

/-!
# The experience's whole life

`android_main` creates the experience with `em_remote_experience_new`, calls
`em_remote_experience_poll_and_render_frame` frame after frame, and ends with
`em_remote_experience_destroy`. A frame makes the EGL context current only when
`egl_begin_pbuffer` succeeds and then releases it once, and every other call of a frame that
`ResourceEvent.holding` follows uses a resource the experience holds. So over the whole life
the ownership contract holds and nothing is left held, whatever the runtime and the stream
client answer during the frames, as long as the `egl_begin_pbuffer` calls of creation and
teardown make the context current.
-/

namespace ElectricMaple
namespace Client

namespace EmRemoteExperience

/-- An experience as `em_remote_experience_new` returns it: it holds the connection, the stream
client and the renderer, and owns a swapchain and two distinct spaces. -/
structure Live (exp : EmRemoteExperience) : Prop where
  connectionHeld : exp.connection = true
  streamClientHeld : exp.streamClient = true
  rendererHeld : exp.renderer = true
  swapchainValid : exp.swapchain ≠ 0
  worldSpaceValid : exp.worldSpace ≠ 0
  viewSpaceValid : exp.viewSpace ≠ 0
  spacesDistinct : exp.worldSpace ≠ exp.viewSpace

/-- The resources a live experience holds, in the order `em_remote_experience_new` acquires
them. -/
def heldResources (exp : EmRemoteExperience) : List Resource :=
  [.connectionRef, .streamClient, .swapchain exp.swapchain, .renderer, .space exp.worldSpace,
    .space exp.viewSpace]

/-- `em_remote_experience_new` either fails or returns a live experience, and when its
`egl_begin_pbuffer` makes the context current, its calls leave the contract holding exactly
what the experience holds. -/
theorem emRemoteExperienceNew_live {xrInfo : EmXrInfo} {input : InitInputs}
    {exp : EmRemoteExperience}
    (created : (emRemoteExperienceNew (some xrInfo) input).1 = some exp)
    (eglCurrent : input.eglBeginPbuffer = true) :
    exp.Live ∧
      ResourceEvent.holding []
        ((emRemoteExperienceNew (some xrInfo) input).2.filterMap InitCall.resourceEvent) =
        some exp.heldResources := by
  obtain ⟨-, rfl, events⟩ := emRemoteExperienceNew_created created
  refine ⟨⟨rfl, rfl, rfl, input.swapchainValid, input.worldSpaceValid, input.viewSpaceValid,
    input.spacesDistinct⟩, ?_⟩
  rw [events, eglCurrent]
  simp [heldResources, ResourceEvent.holding, input.spacesDistinct, input.spacesDistinct.symm]

/-- `em_remote_experience_destroy`, with its `egl_begin_pbuffer` making the context current,
releases everything a live experience holds. -/
theorem destroy_releases_everything {exp : EmRemoteExperience} (live : exp.Live) :
    ResourceEvent.holding exp.heldResources
      ((exp.destroy true).calls.filterMap Call.resourceEvent) = some [] := by
  rw [destroy_resourceEvents exp true live.streamClientHeld]
  cases exp.prevSample <;>
    simp [heldResources, ResourceEvent.holding, live.connectionHeld, live.rendererHeld,
      live.swapchainValid, live.worldSpaceValid, live.viewSpaceValid, live.spacesDistinct]

/-- A frame's calls in the contract's view: uses of the resources in `held`, with at most one
EGL scope opened and closed among them. -/
def FrameResourceEvents (held : List Resource) (events : List ResourceEvent) : Prop :=
  ResourceEvent.UsesOf held events ∨
    ∃ before inside after,
      events = before ++ .acquired .eglScope :: (inside ++ .released .eglScope :: after) ∧
      ResourceEvent.UsesOf held before ∧ ResourceEvent.UsesOf held inside ∧
      ResourceEvent.UsesOf held after

/-- A frame leaves what is held as it was, when it holds what the frame uses and no EGL scope
is open. -/
theorem FrameResourceEvents.holding {frameHeld held : List Resource} {events : List ResourceEvent}
    (frame : FrameResourceEvents frameHeld events) (noScope : Resource.eglScope ∉ held)
    (included : ∀ resource ∈ frameHeld, resource ∈ held) (rest : List ResourceEvent) :
    ResourceEvent.holding held (events ++ rest) = ResourceEvent.holding held rest := by
  rcases frame with uses | ⟨before, inside, after, rfl, usesBefore, usesInside, usesAfter⟩
  · exact ResourceEvent.holding_usesOf (uses.mono included) rest
  · simp only [List.append_assoc, List.cons_append,
      ResourceEvent.holding_usesOf (usesBefore.mono included),
      ResourceEvent.holding_eglScope noScope (usesInside.mono included),
      ResourceEvent.holding_usesOf (usesAfter.mono included)]

variable (convertTimespecTimeToTime : Timespec → Option XrTime)

/-- Reporting the pose uses the view space and, when it sends, the connection. -/
theorem reportPose_resourceEvents (exp : EmRemoteExperience) (predictedDisplayTime : XrTime)
    (located : XrResult × Posef) :
    ResourceEvent.UsesOf exp.heldResources
      ((reportPose exp predictedDisplayTime located).calls.filterMap Call.resourceEvent) := by
  rw [reportPose_eq]
  split_ifs <;> simp [ResourceEvent.UsesOf, Call.resourceEvent, heldResources]

/-- Reporting the frame's timing uses the connection when it sends. -/
theorem reportFrameTiming_resourceEvents (exp : EmRemoteExperience)
    (beginFrameTime decodeEndTime : Timespec) (predictedDisplayTime : XrTime)
    (frameSequenceId : Int) :
    ResourceEvent.UsesOf exp.heldResources
      ((reportFrameTiming convertTimespecTimeToTime exp beginFrameTime decodeEndTime
        predictedDisplayTime frameSequenceId).calls.filterMap Call.resourceEvent) := by
  rw [reportFrameTiming_eq]
  split <;> simp [ResourceEvent.UsesOf, Call.resourceEvent, heldResources]

/-- Rendering uses the stream client, and with a new sample the swapchain, the renderer and
the connection, and keeps what the experience holds. -/
theorem composeLayers_resourceEvents {exp : EmRemoteExperience} {beginTime : Timespec}
    {input : FrameInputs} {rendered : Effect} {result : EmPollRenderResult} {envBlendMode : Nat}
    {layers : List CompositionLayer}
    (composed : composeLayers convertTimespecTimeToTime exp beginTime input =
      some (rendered, result, envBlendMode, layers)) :
    ResourceEvent.UsesOf exp.heldResources (rendered.calls.filterMap Call.resourceEvent) ∧
      rendered.exp.heldResources = exp.heldResources := by
  rcases composeLayers_cases convertTimespecTimeToTime composed with
    ⟨-, rfl, -⟩ | ⟨-, layer, inner, -⟩
  · exact ⟨by simp [ResourceEvent.UsesOf], rfl⟩
  rcases innerPollAndRenderFrame_cases convertTimespecTimeToTime inner with
    ⟨-, rfl, -⟩ | ⟨sample, decodeEndTime, -, -, -, -, -, rfl⟩
  · exact ⟨by simp [ResourceEvent.UsesOf, Call.resourceEvent, heldResources], rfl⟩
  have timing := reportFrameTiming_resourceEvents convertTimespecTimeToTime
    { exp with prevSample := some sample } beginTime decodeEndTime
    input.frameState.predictedDisplayTime sample.frameSequenceId
  refine ⟨?_, by rw [reportFrameTiming_exp]; rfl⟩
  have released : ResourceEvent.UsesOf exp.heldResources
      ((exp.prevSample.map fun prev => Call.releaseSample prev.id).toList.filterMap
        Call.resourceEvent) := by
    cases exp.prevSample <;> simp [ResourceEvent.UsesOf, Call.resourceEvent, heldResources]
  simp only [List.filterMap_append, ResourceEvent.usesOf_append, released, true_and, and_true]
  refine ⟨by simp [ResourceEvent.UsesOf, Call.resourceEvent, heldResources,
    apply_ite (List.filterMap Call.resourceEvent)], by simpa [Call.resourceEvent] using timing⟩

/-- A frame uses only what the experience holds, and either leaves the EGL context alone or
makes it current once and releases it once. -/
theorem pollAndRenderFrame_resourceEvents {exp : EmRemoteExperience} {input : FrameInputs}
    {frame : Effect} {result : EmPollRenderResult}
    (ran : pollAndRenderFrame convertTimespecTimeToTime exp input = some (frame, result)) :
    FrameResourceEvents exp.heldResources (frame.calls.filterMap Call.resourceEvent) := by
  have locates : ResourceEvent.UsesOf exp.heldResources [.used (.space exp.worldSpace)] := by
    simp [ResourceEvent.UsesOf, heldResources]
  rcases pollAndRenderFrame_cases convertTimespecTimeToTime ran with
    ⟨-, rfl, -⟩ | ⟨-, -, -, rfl, -⟩ | ⟨beginTime, -, -, -, ⟨-, rfl, -⟩ | ⟨-, -, rfl, -⟩ |
      ⟨-, -, rendered, envBlendMode, layers, composed, rfl⟩⟩
  iterate 4 exact .inl (by simp [ResourceEvent.UsesOf, Call.resourceEvent, heldResources])
  obtain ⟨renders, sameHeld⟩ := composeLayers_resourceEvents convertTimespecTimeToTime composed
  have reports := reportPose_resourceEvents rendered.exp input.frameState.predictedDisplayTime
    input.locateSpace
  rw [sameHeld] at reports
  refine .inr ⟨_, _, _, ?_, locates, renders, reports⟩
  simp [Call.resourceEvent]

/-- A frame keeps what the experience holds. -/
theorem pollAndRenderFrame_heldResources {exp : EmRemoteExperience} {input : FrameInputs}
    {frame : Effect} {result : EmPollRenderResult}
    (ran : pollAndRenderFrame convertTimespecTimeToTime exp input = some (frame, result)) :
    frame.exp.heldResources = exp.heldResources := by
  rw [pollAndRenderFrame_exp convertTimespecTimeToTime ran]
  rfl

/-- Over a run of the render loop what is held stays held and nothing else is, as long as it
holds what the experience holds and no EGL scope is open when the run starts. -/
theorem runFrames_holding {exp : EmRemoteExperience} {inputs : List FrameInputs}
    {effect : Effect} {results : List EmPollRenderResult}
    (ran : runFrames convertTimespecTimeToTime exp inputs = some (effect, results))
    {held : List Resource} (noScope : Resource.eglScope ∉ held)
    (included : ∀ resource ∈ exp.heldResources, resource ∈ held) :
    ResourceEvent.holding held (effect.calls.filterMap Call.resourceEvent) = some held := by
  induction inputs generalizing exp effect results with
  | nil =>
      simp only [runFrames_nil, Option.some.injEq, Prod.mk.injEq] at ran
      rw [← ran.1]
      rfl
  | cons input inputs inductionHypothesis =>
      obtain ⟨frame, result, rest, restResults, framed, ranRest, rfl, -⟩ :=
        (runFrames_cons_eq_some convertTimespecTimeToTime).mp ran
      rw [List.filterMap_append, (pollAndRenderFrame_resourceEvents convertTimespecTimeToTime
        framed).holding noScope included]
      exact inductionHypothesis ranRest
        (pollAndRenderFrame_heldResources convertTimespecTimeToTime framed ▸ included)

/-- A run of the render loop changes only the held sample and the message counter. -/
theorem runFrames_exp {exp : EmRemoteExperience} {inputs : List FrameInputs} {effect : Effect}
    {results : List EmPollRenderResult}
    (ran : runFrames convertTimespecTimeToTime exp inputs = some (effect, results)) :
    ∃ prevSample nextUpMessage,
      effect.exp = { exp with prevSample := prevSample, nextUpMessage := nextUpMessage } := by
  refine runFrames_preserves convertTimespecTimeToTime
    (fun current _ => ∃ prevSample nextUpMessage,
      current = { exp with prevSample := prevSample, nextUpMessage := nextUpMessage })
    ?_ ⟨exp.prevSample, exp.nextUpMessage, rfl⟩ ran
  rintro input - current calls frame result ⟨prevSample, nextUpMessage, rfl⟩ framed
  have step := pollAndRenderFrame_exp convertTimespecTimeToTime framed
  exact ⟨_, _, step⟩

/-- A run of the render loop keeps an experience live, holding the same resources. -/
theorem runFrames_live {exp : EmRemoteExperience} {inputs : List FrameInputs} {effect : Effect}
    {results : List EmPollRenderResult} (live : exp.Live)
    (ran : runFrames convertTimespecTimeToTime exp inputs = some (effect, results)) :
    effect.exp.Live ∧ effect.exp.heldResources = exp.heldResources := by
  obtain ⟨prevSample, nextUpMessage, kept⟩ := runFrames_exp convertTimespecTimeToTime ran
  rw [kept]
  exact ⟨⟨live.1, live.2, live.3, live.4, live.5, live.6, live.7⟩, rfl⟩

/-- A frame keeps an experience live, holding the same resources. -/
theorem pollAndRenderFrame_live {exp : EmRemoteExperience} {input : FrameInputs}
    {frame : Effect} {result : EmPollRenderResult} (live : exp.Live)
    (ran : pollAndRenderFrame convertTimespecTimeToTime exp input = some (frame, result)) :
    frame.exp.Live ∧ frame.exp.heldResources = exp.heldResources := by
  rw [pollAndRenderFrame_exp convertTimespecTimeToTime ran]
  exact ⟨⟨live.1, live.2, live.3, live.4, live.5, live.6, live.7⟩, rfl⟩

/-- Over the experience's whole life (`em_remote_experience_new`, any run of the render loop,
and `em_remote_experience_destroy`) every resource is acquired before it is used and released
exactly once, and nothing is left held, when the `egl_begin_pbuffer` calls of creation and
teardown make the context current. -/
theorem experience_life_releases_everything {xrInfo : EmXrInfo} {input : InitInputs}
    {exp : EmRemoteExperience} {inputs : List FrameInputs} {effect : Effect}
    {results : List EmPollRenderResult}
    (created : (emRemoteExperienceNew (some xrInfo) input).1 = some exp)
    (eglCurrent : input.eglBeginPbuffer = true)
    (ran : runThenDestroy convertTimespecTimeToTime exp inputs true = some (effect, results)) :
    ResourceEvent.holding []
      ((emRemoteExperienceNew (some xrInfo) input).2.filterMap InitCall.resourceEvent ++
        effect.calls.filterMap Call.resourceEvent) = some [] := by
  obtain ⟨live, opened⟩ := emRemoteExperienceNew_live created eglCurrent
  obtain ⟨⟨frames, framesResults⟩, ranFrames, destroyed⟩ := Option.map_eq_some'.mp ran
  obtain ⟨rfl, -⟩ := Prod.mk.inj destroyed
  obtain ⟨framesLive, sameHeld⟩ := runFrames_live convertTimespecTimeToTime live ranFrames
  have noScope : Resource.eglScope ∉ exp.heldResources := by simp [heldResources]
  have closed := destroy_releases_everything framesLive
  rw [sameHeld] at closed
  simp only [List.filterMap_append, ResourceEvent.holding_append, opened, Option.some_bind,
    runFrames_holding convertTimespecTimeToTime ranFrames noScope (fun _ mem => mem), closed]

/-- A start of the experience in which every OpenXR and EGL call succeeds. -/
def healthyStart : InitInputs where
  getInstanceProcAddr := xrSuccess
  eglBeginPbuffer := true
  createSwapchain := xrSuccess
  swapchain := 3
  enumerateAndGenerateFramebuffers := true
  rendererConstructed := true
  setupRender := true
  createWorldSpace := xrSuccess
  worldSpace := 1
  createViewSpace := xrSuccess
  viewSpace := 2
  disposeEglBeginPbuffer := true
  swapchainValid := by decide
  worldSpaceValid := by decide
  viewSpaceValid := by decide
  spacesDistinct := by decide

theorem experience_life_releases_everything_of_healthy_start :
    (emRemoteExperienceNew (some ⟨⟨960, 1080⟩⟩) healthyStart).1 = some newExperience ∧
      healthyStart.eglBeginPbuffer = true ∧
      runThenDestroy (fun time => some time.tvSec) newExperience sampleThenStall true =
        some sampleThenStallDestroyed ∧
      ResourceEvent.holding []
        ((emRemoteExperienceNew (some ⟨⟨960, 1080⟩⟩) healthyStart).2.filterMap
            InitCall.resourceEvent ++
          sampleThenStallDestroyed.1.calls.filterMap Call.resourceEvent) = some [] :=
  ⟨rfl, rfl, rfl, @experience_life_releases_everything (fun time => some time.tvSec)
    ⟨⟨960, 1080⟩⟩ healthyStart newExperience sampleThenStall sampleThenStallDestroyed.1
    sampleThenStallDestroyed.2 rfl rfl rfl⟩

end EmRemoteExperience

end Client
end ElectricMaple
