import ElectricMaple.Client.Ownership

/-!
# Creating the experience

`em_remote_experience_new` takes a reference on the connection and the caller's stream client,
looks up `xrConvertTimespecTimeToTimeKHR`, creates the swapchain, its framebuffers and the
renderer inside an EGL scope, and then the world and view spaces. At each failure it runs
`em_remote_experience_destroy` on what it has built so far and returns `nullptr`.

`ResourceEvent.holding` is the ownership contract of that cleanup: a resource is acquired
once, used while held and released exactly once. The calls of `em_remote_experience_new`,
seen through `InitCall.resourceEvent`, keep it at every failure point, provided that every
`egl_begin_pbuffer` makes the context current. They break it in two places: the
`egl_begin_pbuffer` result is ignored, so `egl_end` can close a scope that was never opened;
and when the `Renderer` constructor throws, the catch block calls `reset` on the renderer it
never got.
-/

namespace ElectricMaple
namespace Client

/-- `XR_ENVIRONMENT_BLEND_MODE_ADDITIVE`. -/
def xrEnvironmentBlendModeAdditive : Nat := 2

/-- `XR_REFERENCE_SPACE_TYPE_VIEW`. -/
def xrReferenceSpaceTypeView : Nat := 1

/-- `XR_REFERENCE_SPACE_TYPE_STAGE`. -/
def xrReferenceSpaceTypeStage : Nat := 3

/-- The field of `EmXrInfo` the model keeps: the eye extents. -/
structure EmXrInfo where
  eyeExtents : Extent2Di
  deriving DecidableEq, Repr

/-- Every answer the environment gives while `em_remote_experience_new` runs, including its
teardown. The runtime writes a handle only when a create call succeeds. The handles it hands
out are never `XR_NULL_HANDLE`, and the two spaces are distinct. -/
structure InitInputs where
  getInstanceProcAddr : XrResult
  eglBeginPbuffer : Bool
  createSwapchain : XrResult
  swapchain : Nat
  enumerateAndGenerateFramebuffers : Bool
  /-- `std::make_unique<Renderer>()` returns; `false` when the constructor throws. -/
  rendererConstructed : Bool
  /-- `setupRender` returns; `false` when it throws. -/
  setupRender : Bool
  createWorldSpace : XrResult
  worldSpace : Nat
  createViewSpace : XrResult
  viewSpace : Nat
  /-- What `egl_begin_pbuffer` answers in the teardown's `em_remote_experience_dispose`. -/
  disposeEglBeginPbuffer : Bool
  swapchainValid : swapchain ≠ 0
  worldSpaceValid : worldSpace ≠ 0
  viewSpaceValid : viewSpace ≠ 0
  spacesDistinct : worldSpace ≠ viewSpace

/-- A call `em_remote_experience_new` makes, or one it shares with the render loop and the
teardown. -/
inductive InitCall
  | gObjectRefSink
  /-- `self->stream_client = stream_client`: the experience takes over the caller's stream
  client, which `android_main` no longer releases. -/
  | takeStreamClient
  | xrGetInstanceProcAddr (result : XrResult)
  | xrCreateSwapchain (result : XrResult) (swapchain : Nat)
  | enumerateAndGenerateFramebuffers (succeeded : Bool)
  | makeRenderer (constructed : Bool)
  | setupRender (succeeded : Bool)
  /-- `self->renderer->reset()` in the catch block, which does not free the renderer. -/
  | resetRenderer
  | xrCreateReferenceSpace (referenceSpaceType : Nat) (result : XrResult) (space : Nat)
  | call (call : Call)
  deriving DecidableEq, Repr

/-- `em_remote_experience_destroy(&self)` in a failed `em_remote_experience_new`. -/
def InitInputs.destroyCalls (input : InitInputs) (self : EmRemoteExperience) : List InitCall :=
  (self.destroy input.disposeEglBeginPbuffer).calls.map .call

/-- The spaces block of `em_remote_experience_new`, after the EGL scope: create the world
(stage) space, then the view space, and on success switch passthrough to additive blending. -/
def newSpaces (input : InitInputs) (self : EmRemoteExperience) :
    Option EmRemoteExperience × List InitCall :=
  let worldCreated :=
    [InitCall.xrCreateReferenceSpace xrReferenceSpaceTypeStage input.createWorldSpace input.worldSpace]
  if input.createWorldSpace.failed then (none, worldCreated ++ input.destroyCalls self) else
  let self := { self with worldSpace := input.worldSpace }
  let viewCreated := worldCreated ++
    [.xrCreateReferenceSpace xrReferenceSpaceTypeView input.createViewSpace input.viewSpace]
  if input.createViewSpace.failed then (none, viewCreated ++ input.destroyCalls self) else
  (some { self with viewSpace := input.viewSpace },
    viewCreated ++ [.call (.setBlendMode xrEnvironmentBlendModeAdditive)])

/-- The `try` block of `em_remote_experience_new`: construct the renderer and set it up. When
either throws, the catch block calls `reset` on the renderer, ends the EGL scope and destroys
the experience; otherwise the EGL scope ends and the spaces are created. -/
def newRenderer (input : InitInputs) (self : EmRemoteExperience) :
    Option EmRemoteExperience × List InitCall :=
  let constructed := [InitCall.makeRenderer input.rendererConstructed]
  if !input.rendererConstructed then
    (none, constructed ++ [.resetRenderer, .call .eglEnd] ++ input.destroyCalls self) else
  let self := { self with renderer := true }
  let setUp := constructed ++ [.setupRender input.setupRender]
  if !input.setupRender then
    (none, setUp ++ [.resetRenderer, .call .eglEnd] ++ input.destroyCalls self) else
  (newSpaces input self).map id (setUp ++ .call .eglEnd :: ·)

/-- The EGL block of `em_remote_experience_new`: make the context current, whatever
`egl_begin_pbuffer` answers, then create the swapchain and its framebuffers. Each failure ends
the EGL scope and destroys the experience. -/
def newSwapchain (input : InitInputs) (self : EmRemoteExperience) :
    Option EmRemoteExperience × List InitCall :=
  let created := [InitCall.call (.eglBeginPbuffer input.eglBeginPbuffer),
    .xrCreateSwapchain input.createSwapchain input.swapchain]
  if input.createSwapchain.failed then
    (none, created ++ .call .eglEnd :: input.destroyCalls self) else
  let self := { self with swapchain := input.swapchain }
  let enumerated := created ++
    [.enumerateAndGenerateFramebuffers input.enumerateAndGenerateFramebuffers]
  if !input.enumerateAndGenerateFramebuffers then
    (none, enumerated ++ .call .eglEnd :: input.destroyCalls self) else
  (newRenderer input self).map id (enumerated ++ ·)

/-- `em_remote_experience_new`, with `nullptr` as `none`: take a reference on the connection,
take over the stream client, and look up `xrConvertTimespecTimeToTimeKHR` before the EGL
block. -/
def emRemoteExperienceNew (xrInfo : Option EmXrInfo) (input : InitInputs) :
    Option EmRemoteExperience × List InitCall :=
  match xrInfo with
  | none => (none, [])
  | some xrInfo =>
    let self : EmRemoteExperience := ⟨true, true, false, none, xrInfo.eyeExtents, 0, 0, 0, 1⟩
    let lookedUp :=
      [InitCall.gObjectRefSink, .takeStreamClient, .xrGetInstanceProcAddr input.getInstanceProcAddr]
    if input.getInstanceProcAddr.failed then (none, lookedUp ++ input.destroyCalls self) else
    (newSwapchain input self).map id (lookedUp ++ ·)

/-- The first step of `em_remote_experience_new` that fails, in the order the code takes them. -/
inductive InitFailure
  | conversionLookup
  | swapchainCreation
  | framebufferEnumeration
  | rendererConstruction
  | rendererSetup
  | worldSpaceCreation
  | viewSpaceCreation
  deriving DecidableEq, Repr

/-- The failure point the answers lead to; `none` when every step succeeds. -/
def InitInputs.failure (input : InitInputs) : Option InitFailure :=
  if input.getInstanceProcAddr.failed then some .conversionLookup
  else if input.createSwapchain.failed then some .swapchainCreation
  else if !input.enumerateAndGenerateFramebuffers then some .framebufferEnumeration
  else if !input.rendererConstructed then some .rendererConstruction
  else if !input.setupRender then some .rendererSetup
  else if input.createWorldSpace.failed then some .worldSpaceCreation
  else if input.createViewSpace.failed then some .viewSpaceCreation
  else none

/-! ## The ownership contract -/

/-- A resource `em_remote_experience_new` acquires: the reference on the connection, the
stream client it takes over, the EGL context it makes current, the swapchain and the spaces the
runtime creates, and the renderer. -/
inductive Resource
  | connectionRef
  | streamClient
  | eglScope
  | swapchain (handle : Nat)
  | space (handle : Nat)
  | renderer
  deriving DecidableEq, Repr

/-- What a call does to a resource. -/
inductive ResourceEvent
  | acquired (resource : Resource)
  | used (resource : Resource)
  | released (resource : Resource)
  deriving DecidableEq, Repr

namespace ResourceEvent

/-- The resources held after a trace, starting from `held`; `none` at the acquisition of a
resource already held, or at a use or release of one not held. -/
def holding : List Resource → List ResourceEvent → Option (List Resource)
  | held, [] => some held
  | held, acquired resource :: events =>
      if resource ∈ held then none else holding (held ++ [resource]) events
  | held, used resource :: events => if resource ∈ held then holding held events else none
  | held, released resource :: events =>
      if resource ∈ held then holding (held.erase resource) events else none

theorem holding_append (held : List Resource) (first second : List ResourceEvent) :
    holding held (first ++ second) = (holding held first).bind (holding · second) := by
  induction first generalizing held with
  | nil => rfl
  | cons event first inductionHypothesis =>
      cases event <;> simp only [List.cons_append, holding] <;> split_ifs <;>
        simp [inductionHypothesis]

/-- Every event of a trace uses a resource of `held`. -/
def UsesOf (held : List Resource) (events : List ResourceEvent) : Prop :=
  ∀ event ∈ events, ∃ resource ∈ held, event = .used resource

theorem usesOf_append {held : List Resource} {first second : List ResourceEvent} :
    UsesOf held (first ++ second) ↔ UsesOf held first ∧ UsesOf held second :=
  List.forall_mem_append

theorem UsesOf.mono {held held' : List Resource} {events : List ResourceEvent}
    (uses : UsesOf held events) (included : ∀ resource ∈ held, resource ∈ held') :
    UsesOf held' events := fun event mem =>
  let ⟨resource, mem', same⟩ := uses event mem
  ⟨resource, included resource mem', same⟩

/-- Uses of held resources leave what is held as it was. -/
theorem holding_usesOf {held : List Resource} {uses : List ResourceEvent} (used : UsesOf held uses)
    (rest : List ResourceEvent) : holding held (uses ++ rest) = holding held rest := by
  induction uses with
  | nil => rfl
  | cons event uses inductionHypothesis =>
      obtain ⟨⟨resource, mem, rfl⟩, usedRest⟩ := List.forall_mem_cons.mp used
      simp only [List.cons_append, holding, mem, if_true]
      exact inductionHypothesis usedRest

/-- Opening an EGL scope outside any other, using held resources inside it and closing it
leaves what is held as it was. -/
theorem holding_eglScope {held : List Resource} (noScope : Resource.eglScope ∉ held)
    {inside : List ResourceEvent} (used : UsesOf held inside) (rest : List ResourceEvent) :
    holding held (.acquired .eglScope :: (inside ++ .released .eglScope :: rest)) =
      holding held rest := by
  have opened : UsesOf (held ++ [.eglScope]) inside :=
    used.mono fun _ mem => List.mem_append_left _ mem
  simp only [holding, noScope, if_false, holding_usesOf opened, List.mem_append,
    List.mem_singleton, or_true, if_true, List.erase_append_right _ noScope, List.erase_cons_head,
    List.append_nil]

end ResourceEvent

/-- The contract's view of a call of the render loop or the teardown: `egl_begin_pbuffer` makes
the EGL context current when it succeeds, and `em_remote_experience_dispose`'s `reset`
followed by `renderer = nullptr` releases the renderer. In a frame, `xrLocateViews` uses the
world space it locates the views in, and `xrLocateSpace` the view space it locates in that
world space; the swapchain image calls use the swapchain, `draw` the renderer,
`try_pull_sample` and `release_sample` the stream client, and `em_connection_send_bytes` the
connection. -/
def Call.resourceEvent : Call → Option ResourceEvent
  | .xrLocateViews _ space => some (.used (.space space))
  | .eglBeginPbuffer current => if current then some (.acquired .eglScope) else none
  | .tryPullSample _ | .releaseSample _ => some (.used .streamClient)
  | .xrAcquireSwapchainImage swapchain | .xrWaitSwapchainImage swapchain
  | .xrReleaseSwapchainImage swapchain => some (.used (.swapchain swapchain))
  | .draw _ => some (.used .renderer)
  | .eglEnd => some (.released .eglScope)
  | .xrLocateSpace space _ _ => some (.used (.space space))
  | .sendBytes _ => some (.used .connectionRef)
  | .streamClientStop => some (.used .streamClient)
  | .connectionDisconnect => some (.used .connectionRef)
  | .rendererReset => some (.released .renderer)
  | .streamClientDestroy => some (.released .streamClient)
  | .connectionUnref => some (.released .connectionRef)
  | .xrDestroySwapchain swapchain => some (.released (.swapchain swapchain))
  | .xrDestroySpace space => some (.released (.space space))
  | _ => none

/-- The contract's view of a call of `em_remote_experience_new`: `setupRender` and the catch
block's `reset` use the renderer. -/
def InitCall.resourceEvent : InitCall → Option ResourceEvent
  | .gObjectRefSink => some (.acquired .connectionRef)
  | .takeStreamClient => some (.acquired .streamClient)
  | .xrCreateSwapchain result swapchain =>
      if result.failed then none else some (.acquired (.swapchain swapchain))
  | .makeRenderer constructed => if constructed then some (.acquired .renderer) else none
  | .setupRender _ | .resetRenderer => some (.used .renderer)
  | .xrCreateReferenceSpace _ result space =>
      if result.failed then none else some (.acquired (.space space))
  | .call shared => shared.resourceEvent
  | _ => none

/-- What `em_remote_experience_destroy` does to the resources of an experience that holds its
stream client: it stops the stream client, releases the renderer inside an EGL scope, gives
the held sample back to the stream client, destroys the stream client, drops the connection,
and destroys the swapchain and the spaces. -/
theorem destroy_resourceEvents (exp : EmRemoteExperience) (eglCurrent : Bool)
    (streamClientHeld : exp.streamClient = true) :
    (exp.destroy eglCurrent).calls.filterMap Call.resourceEvent =
      .used .streamClient ::
        (if exp.renderer then
          (if eglCurrent then [.acquired .eglScope] else []) ++
            [.released .renderer, .released .eglScope]
        else []) ++
        (if exp.prevSample.isSome then [.used .streamClient] else []) ++
        (if exp.connection then [.used .connectionRef] else []) ++ .released .streamClient ::
        (if exp.connection then [.released .connectionRef] else []) ++
        (if exp.swapchain ≠ 0 then [.released (.swapchain exp.swapchain)] else []) ++
        (if exp.viewSpace ≠ 0 then [.released (.space exp.viewSpace)] else []) ++
        (if exp.worldSpace ≠ 0 then [.released (.space exp.worldSpace)] else []) := by
  simp only [EmRemoteExperience.destroy, EmRemoteExperience.dispose, EmRemoteExperience.finalize,
    streamClientHeld, if_true, List.filterMap_append, List.append_assoc,
    apply_ite (List.filterMap Call.resourceEvent)]
  cases exp.renderer <;> cases exp.connection <;> cases eglCurrent <;> cases exp.prevSample <;> rfl

theorem destroyCalls_resourceEvents (input : InitInputs) (self : EmRemoteExperience)
    (streamClientHeld : self.streamClient = true) :
    (input.destroyCalls self).filterMap InitCall.resourceEvent =
      .used .streamClient ::
        (if self.renderer then
          (if input.disposeEglBeginPbuffer then [.acquired .eglScope] else []) ++
            [.released .renderer, .released .eglScope]
        else []) ++
        (if self.prevSample.isSome then [.used .streamClient] else []) ++
        (if self.connection then [.used .connectionRef] else []) ++ .released .streamClient ::
        (if self.connection then [.released .connectionRef] else []) ++
        (if self.swapchain ≠ 0 then [.released (.swapchain self.swapchain)] else []) ++
        (if self.viewSpace ≠ 0 then [.released (.space self.viewSpace)] else []) ++
        (if self.worldSpace ≠ 0 then [.released (.space self.worldSpace)] else []) := by
  rw [InitInputs.destroyCalls, List.filterMap_map]
  exact destroy_resourceEvents self _ streamClientHeld

/-! ## Failure points -/

/-- At every failure point but a throwing `Renderer` constructor, when every
`egl_begin_pbuffer` makes the context current, `em_remote_experience_new` returns `nullptr`
after releasing exactly once everything it acquired, and nothing it did not. -/
theorem failed_initialisation_releases_exactly {xrInfo : EmXrInfo} {input : InitInputs}
    {point : InitFailure} (failed : input.failure = some point)
    (constructorReturns : point ≠ .rendererConstruction) (eglCurrent : input.eglBeginPbuffer = true)
    (disposeEglCurrent : input.disposeEglBeginPbuffer = true) :
    (emRemoteExperienceNew (some xrInfo) input).1 = none ∧
      ResourceEvent.holding []
        ((emRemoteExperienceNew (some xrInfo) input).2.filterMap InitCall.resourceEvent) =
        some [] := by
  have swapchainValid := input.swapchainValid
  have worldSpaceValid := input.worldSpaceValid
  unfold InitInputs.failure at failed
  cases lookup : input.getInstanceProcAddr.failed
  case true =>
    simp [emRemoteExperienceNew, lookup, destroyCalls_resourceEvents, InitCall.resourceEvent,
      Call.resourceEvent, ResourceEvent.holding]
  cases swapchain : input.createSwapchain.failed
  case true =>
    simp [emRemoteExperienceNew, newSwapchain, lookup, swapchain, eglCurrent,
      destroyCalls_resourceEvents, InitCall.resourceEvent, Call.resourceEvent,
      ResourceEvent.holding]
  cases framebuffers : input.enumerateAndGenerateFramebuffers
  case false =>
    simp [emRemoteExperienceNew, newSwapchain, lookup, swapchain, framebuffers, eglCurrent,
      swapchainValid, destroyCalls_resourceEvents, InitCall.resourceEvent, Call.resourceEvent,
      ResourceEvent.holding]
  cases constructed : input.rendererConstructed
  case false =>
    simp only [lookup, swapchain, framebuffers, constructed, Bool.false_eq_true, Bool.not_true,
      Bool.not_false, if_false, if_true, Option.some.injEq] at failed
    exact absurd failed.symm constructorReturns
  cases setUp : input.setupRender
  case false =>
    simp [emRemoteExperienceNew, newSwapchain, newRenderer, lookup, swapchain, framebuffers,
      constructed, setUp, eglCurrent, disposeEglCurrent, swapchainValid,
      destroyCalls_resourceEvents, InitCall.resourceEvent, Call.resourceEvent,
      ResourceEvent.holding]
  cases world : input.createWorldSpace.failed
  case true =>
    simp [emRemoteExperienceNew, newSwapchain, newRenderer, newSpaces, lookup, swapchain,
      framebuffers, constructed, setUp, world, eglCurrent, disposeEglCurrent, swapchainValid,
      destroyCalls_resourceEvents, InitCall.resourceEvent, Call.resourceEvent,
      ResourceEvent.holding]
  cases view : input.createViewSpace.failed
  case true =>
    simp [emRemoteExperienceNew, newSwapchain, newRenderer, newSpaces, lookup, swapchain,
      framebuffers, constructed, setUp, world, view, eglCurrent, disposeEglCurrent,
      swapchainValid, worldSpaceValid, destroyCalls_resourceEvents, InitCall.resourceEvent,
      Call.resourceEvent, ResourceEvent.holding]
  simp [lookup, swapchain, framebuffers, constructed, setUp, world, view] at failed

/-- When `em_remote_experience_new` returns an experience, every step succeeded: the experience
holds the connection, the stream client, the renderer, the swapchain and both spaces, holds no
sample, and numbers its next up message 1; the renderer was set up inside one EGL scope. -/
theorem emRemoteExperienceNew_created {xrInfo : EmXrInfo} {input : InitInputs}
    {exp : EmRemoteExperience}
    (created : (emRemoteExperienceNew (some xrInfo) input).1 = some exp) :
    input.failure = none ∧
      exp = ⟨true, true, true, none, xrInfo.eyeExtents, input.worldSpace, input.viewSpace,
        input.swapchain, 1⟩ ∧
      (emRemoteExperienceNew (some xrInfo) input).2.filterMap InitCall.resourceEvent =
        [.acquired .connectionRef, .acquired .streamClient] ++
          (if input.eglBeginPbuffer then [.acquired .eglScope] else []) ++
          [.acquired (.swapchain input.swapchain), .acquired .renderer, .used .renderer,
            .released .eglScope, .acquired (.space input.worldSpace),
            .acquired (.space input.viewSpace)] := by
  cases lookup : input.getInstanceProcAddr.failed
  case true => simp [emRemoteExperienceNew, lookup] at created
  cases swapchain : input.createSwapchain.failed
  case true => simp [emRemoteExperienceNew, newSwapchain, lookup, swapchain] at created
  cases framebuffers : input.enumerateAndGenerateFramebuffers
  case false =>
    simp [emRemoteExperienceNew, newSwapchain, lookup, swapchain, framebuffers] at created
  cases constructed : input.rendererConstructed
  case false =>
    simp [emRemoteExperienceNew, newSwapchain, newRenderer, lookup, swapchain, framebuffers,
      constructed] at created
  cases setUp : input.setupRender
  case false =>
    simp [emRemoteExperienceNew, newSwapchain, newRenderer, lookup, swapchain, framebuffers,
      constructed, setUp] at created
  cases world : input.createWorldSpace.failed
  case true =>
    simp [emRemoteExperienceNew, newSwapchain, newRenderer, newSpaces, lookup, swapchain,
      framebuffers, constructed, setUp, world] at created
  cases view : input.createViewSpace.failed
  case true =>
    simp [emRemoteExperienceNew, newSwapchain, newRenderer, newSpaces, lookup, swapchain,
      framebuffers, constructed, setUp, world, view] at created
  simp only [emRemoteExperienceNew, newSwapchain, newRenderer, newSpaces, lookup, swapchain,
    framebuffers, constructed, setUp, world, view, Bool.false_eq_true, Bool.not_true, if_false,
    Prod.map, id, Option.some.injEq] at created
  subst created
  refine ⟨by simp [InitInputs.failure, lookup, swapchain, framebuffers, constructed, setUp, world,
    view], rfl, ?_⟩
  cases egl : input.eglBeginPbuffer <;>
    simp [emRemoteExperienceNew, newSwapchain, newRenderer, newSpaces, lookup, swapchain,
      framebuffers, constructed, setUp, world, view, egl, InitCall.resourceEvent,
      Call.resourceEvent]

/-- When every step succeeds, `em_remote_experience_new` returns the experience. -/
theorem emRemoteExperienceNew_succeeds {xrInfo : EmXrInfo} {input : InitInputs}
    (succeeded : input.failure = none) :
    (emRemoteExperienceNew (some xrInfo) input).1 =
      some ⟨true, true, true, none, xrInfo.eyeExtents, input.worldSpace, input.viewSpace,
        input.swapchain, 1⟩ := by
  unfold InitInputs.failure at succeeded
  cases lookup : input.getInstanceProcAddr.failed
  case true => simp [lookup] at succeeded
  cases swapchain : input.createSwapchain.failed
  case true => simp [lookup, swapchain] at succeeded
  cases framebuffers : input.enumerateAndGenerateFramebuffers
  case false => simp [lookup, swapchain, framebuffers] at succeeded
  cases constructed : input.rendererConstructed
  case false => simp [lookup, swapchain, framebuffers, constructed] at succeeded
  cases setUp : input.setupRender
  case false => simp [lookup, swapchain, framebuffers, constructed, setUp] at succeeded
  cases world : input.createWorldSpace.failed
  case true => simp [lookup, swapchain, framebuffers, constructed, setUp, world] at succeeded
  cases view : input.createViewSpace.failed
  case true => simp [lookup, swapchain, framebuffers, constructed, setUp, world, view] at succeeded
  simp [emRemoteExperienceNew, newSwapchain, newRenderer, newSpaces, lookup, swapchain,
    framebuffers, constructed, setUp, world, view]

/-- When the `Renderer` constructor throws, `em_remote_experience_new` returns `nullptr` after
the catch block calls `reset` on the renderer it never acquired. Because the result of
`egl_begin_pbuffer` is ignored, the catch block also calls `egl_end` on a scope that was
never opened whenever `egl_begin_pbuffer` fails. -/
theorem rendererConstructionFailure_uses_unacquired (xrInfo : EmXrInfo) (input : InitInputs)
    (lookedUp : input.getInstanceProcAddr.failed = false)
    (swapchainCreated : input.createSwapchain.failed = false)
    (enumerated : input.enumerateAndGenerateFramebuffers = true)
    (throws : input.rendererConstructed = false) :
    (emRemoteExperienceNew (some xrInfo) input).1 = none ∧
      (emRemoteExperienceNew (some xrInfo) input).2.filterMap InitCall.resourceEvent =
        [.acquired .connectionRef, .acquired .streamClient] ++
          (if input.eglBeginPbuffer then [.acquired .eglScope] else []) ++
          [.acquired (.swapchain input.swapchain), .used .renderer, .released .eglScope,
            .used .streamClient, .used .connectionRef, .released .streamClient,
            .released .connectionRef, .released (.swapchain input.swapchain)] := by
  have swapchainValid := input.swapchainValid
  refine ⟨by simp [emRemoteExperienceNew, newSwapchain, newRenderer, lookedUp, swapchainCreated,
    enumerated, throws], ?_⟩
  cases egl : input.eglBeginPbuffer <;>
    simp [emRemoteExperienceNew, newSwapchain, newRenderer, lookedUp, swapchainCreated, enumerated,
      throws, egl, swapchainValid, destroyCalls_resourceEvents, InitCall.resourceEvent,
      Call.resourceEvent]

/-- A start in which the swapchain and its framebuffers are created but the `Renderer`
constructor throws, and no `egl_begin_pbuffer` makes the context current. -/
def rendererThrows : InitInputs where
  getInstanceProcAddr := xrSuccess
  eglBeginPbuffer := false
  createSwapchain := xrSuccess
  swapchain := 3
  enumerateAndGenerateFramebuffers := true
  rendererConstructed := false
  setupRender := true
  createWorldSpace := xrSuccess
  worldSpace := 1
  createViewSpace := xrSuccess
  viewSpace := 2
  disposeEglBeginPbuffer := false
  swapchainValid := by decide
  worldSpaceValid := by decide
  viewSpaceValid := by decide
  spacesDistinct := by decide

theorem rendererConstructionFailure_uses_unacquired_without_egl :
    rendererThrows.getInstanceProcAddr.failed = false ∧
      rendererThrows.createSwapchain.failed = false ∧
      rendererThrows.enumerateAndGenerateFramebuffers = true ∧
      rendererThrows.rendererConstructed = false ∧
      (emRemoteExperienceNew (some ⟨⟨960, 1080⟩⟩) rendererThrows).1 = none ∧
      (emRemoteExperienceNew (some ⟨⟨960, 1080⟩⟩) rendererThrows).2.filterMap
          InitCall.resourceEvent =
        [.acquired .connectionRef, .acquired .streamClient] ++
          (if rendererThrows.eglBeginPbuffer then [.acquired .eglScope] else []) ++
          [.acquired (.swapchain rendererThrows.swapchain), .used .renderer, .released .eglScope,
            .used .streamClient, .used .connectionRef, .released .streamClient,
            .released .connectionRef, .released (.swapchain rendererThrows.swapchain)] :=
  ⟨by decide, by decide, rfl, rfl,
    rendererConstructionFailure_uses_unacquired ⟨⟨960, 1080⟩⟩ rendererThrows (by decide) (by decide)
      rfl rfl⟩

end Client
end ElectricMaple
