import ElectricMaple.Client.Session
import ElectricMaple.Client.Lifecycle

/-!
# `android_main` from start to exit

`android_main` attaches its thread to the JVM and makes the initial EGL data, starts OpenXR
(loader, instance, view configuration, session), then the remote-rendering objects (the EGL
mutex, the stream client, the connection), hands the stream client to
`em_remote_experience_new`, runs the main loop until `destroyRequested`, and tears down. Each
check on the way returns early.

`OwnershipEvent.holding` is the ownership contract of `ResourceEvent.holding` over any type of
resources; `ResourceEvent.holding_eq_ownership` says the experience's contract is an instance
of it. Over `AppResource` it follows the resources of the whole app: those `android_main`
acquires, and through `AppResource.experience` those of the experience. At the normal exit
everything is released but the OpenXR instance and session, which the code never destroys.
-/

namespace ElectricMaple
namespace Client

/-! ## The ownership contract over any resources -/

/-- An event of the ownership contract over resources of type `R`. -/
inductive OwnershipEvent (R : Type)
  | acquired (resource : R)
  | used (resource : R)
  | released (resource : R)
  deriving DecidableEq, Repr

namespace OwnershipEvent

variable {R S : Type}

/-- The resource an event names. -/
def resource : OwnershipEvent R → R
  | acquired resource | used resource | released resource => resource

/-- The event with its resource renamed. -/
def map (f : R → S) : OwnershipEvent R → OwnershipEvent S
  | acquired resource => acquired (f resource)
  | used resource => used (f resource)
  | released resource => released (f resource)

@[simp] theorem resource_map (f : R → S) (event : OwnershipEvent R) :
    (event.map f).resource = f event.resource := by
  cases event <;> rfl

variable [DecidableEq R] [DecidableEq S]

/-- The resources held after a trace, starting from `held`; `none` at the acquisition of a
resource already held, or at a use or release of one not held. -/
def holding : List R → List (OwnershipEvent R) → Option (List R)
  | held, [] => some held
  | held, acquired resource :: events =>
      if resource ∈ held then none else holding (held ++ [resource]) events
  | held, used resource :: events => if resource ∈ held then holding held events else none
  | held, released resource :: events =>
      if resource ∈ held then holding (held.erase resource) events else none

theorem holding_append (held : List R) (first second : List (OwnershipEvent R)) :
    holding held (first ++ second) = (holding held first).bind (holding · second) := by
  induction first generalizing held with
  | nil => rfl
  | cons event first inductionHypothesis =>
      cases event <;> simp only [List.cons_append, holding] <;> split_ifs <;>
        simp [inductionHypothesis]

/-- Resources no event names are carried along untouched, ahead of the others. -/
theorem holding_prefix {extra : List R} (held : List R) {events : List (OwnershipEvent R)}
    (untouched : ∀ event ∈ events, event.resource ∉ extra) :
    holding (extra ++ held) events = (holding held events).map (extra ++ ·) := by
  induction events generalizing held with
  | nil => rfl
  | cons event events inductionHypothesis =>
      have outside := untouched event (List.mem_cons_self _ _)
      have rest : ∀ held, holding (extra ++ held) events = (holding held events).map (extra ++ ·) :=
        fun held => inductionHypothesis held fun other mem =>
          untouched other (List.mem_cons_of_mem _ mem)
      cases event <;> simp only [OwnershipEvent.resource] at outside <;>
        simp only [holding, List.mem_append, outside, false_or, List.append_assoc,
          List.erase_append_right _ outside] <;>
        split_ifs <;> simp [rest]

/-- Renaming the resources by an injective map renames what is held. -/
theorem holding_map {f : R → S} (injective : Function.Injective f) (held : List R)
    (events : List (OwnershipEvent R)) :
    holding (held.map f) (events.map (map f)) = (holding held events).map (List.map f) := by
  induction events generalizing held with
  | nil => rfl
  | cons event events inductionHypothesis =>
      cases event <;>
        simp only [List.map_cons, map, holding, List.mem_map, injective.eq_iff,
          exists_eq_right] <;>
        split_ifs <;> simp [← inductionHypothesis, List.map_erase injective]

/-- A trace of parts each of which leaves what is held as it was leaves it as it was. -/
theorem holding_flatMap_of_forall {α : Type} {held : List R} {parts : List α}
    {events : α → List (OwnershipEvent R)}
    (kept : ∀ part ∈ parts, holding held (events part) = some held) :
    holding held (parts.flatMap events) = some held := by
  induction parts with
  | nil => rfl
  | cons part parts inductionHypothesis =>
      rw [List.flatMap_cons, holding_append, kept part (List.mem_cons_self _ _), Option.some_bind]
      exact inductionHypothesis fun other mem => kept other (List.mem_cons_of_mem _ mem)

/-- Acquiring a resource not held and releasing it leaves what is held as it was. -/
theorem holding_acquired_released {held : List R} {resource : R} (notHeld : resource ∉ held) :
    holding held [acquired resource, released resource] = some held := by
  simp [holding, notHeld, List.erase_append_right _ notHeld]

end OwnershipEvent

/-- An event of the experience's contract as an event of the contract over `Resource`. -/
def ResourceEvent.toOwnership : ResourceEvent → OwnershipEvent Resource
  | .acquired resource => .acquired resource
  | .used resource => .used resource
  | .released resource => .released resource

/-- The experience's contract is the contract over `Resource`. -/
theorem ResourceEvent.holding_eq_ownership (held : List Resource) (events : List ResourceEvent) :
    ResourceEvent.holding held events =
      OwnershipEvent.holding held (events.map ResourceEvent.toOwnership) := by
  induction events generalizing held with
  | nil => rfl
  | cons event events inductionHypothesis =>
      cases event <;>
        simp [ResourceEvent.holding, OwnershipEvent.holding, toOwnership, inductionHypothesis]

/-! ## The app's resources -/

/-- A resource of the app: the JVM attachment of the main thread, the initial EGL data, the
OpenXR instance and session, the EGL mutex, the stream client while `android_main` owns it,
`android_main`'s reference on the connection, and the experience's own resources. -/
inductive AppResource
  | jniThread
  | eglData
  | xrInstance
  | xrSession
  | eglMutex
  | streamClient
  | connectionRef
  | experience (resource : Resource)
  deriving DecidableEq, Repr

/-- An event of the experience's contract, seen from the app. -/
def ResourceEvent.toApp (event : ResourceEvent) : OwnershipEvent AppResource :=
  event.toOwnership.map .experience

theorem AppResource.experience_injective : Function.Injective AppResource.experience :=
  fun _ _ same => by cases same; rfl

/-- Seen from the app, the experience's contract runs on the experience's resources, behind
the app's own. -/
theorem holding_experience {extra : List AppResource}
    (ownOnly : ∀ resource, AppResource.experience resource ∉ extra) (held : List Resource)
    (events : List ResourceEvent) :
    OwnershipEvent.holding (extra ++ held.map .experience) (events.map ResourceEvent.toApp) =
      (ResourceEvent.holding held events).map fun held => extra ++ held.map .experience := by
  have mapped : events.map ResourceEvent.toApp =
      (events.map ResourceEvent.toOwnership).map (OwnershipEvent.map .experience) := by
    simp [ResourceEvent.toApp, Function.comp_def]
  rw [mapped, OwnershipEvent.holding_prefix, OwnershipEvent.holding_map
    AppResource.experience_injective, ResourceEvent.holding_eq_ownership, Option.map_map]
  · rfl
  · intro event mem
    obtain ⟨original, -, rfl⟩ := List.mem_map.mp mem
    simpa using ownOnly _

/-! ## The model of `android_main` -/

/-- `static_cast<int32_t>` of a `uint32_t`: the same bits read in two's complement. -/
def staticCastInt32 (value : UInt32) : Int :=
  if value.toNat < 2147483648 then value.toNat else value.toNat - 4294967296

/-- Every answer `android_main` gets: the results of the OpenXR startup, the view count and
the recommended size of the first view, what `read_websocket_uri_property` returns, the
answers of `em_remote_experience_new`, the main loop's iterations until `destroyRequested`,
and `egl_begin_pbuffer` in `em_remote_experience_destroy`. -/
structure MainInputs where
  initializeLoader : XrResult
  createInstance : XrResult
  enumerateViewConfigurations : XrResult
  enumerateViewConfigurationViews : XrResult
  viewCount : Nat
  recommendedImageRectWidth : UInt32
  recommendedImageRectHeight : UInt32
  createSession : XrResult
  websocketUriProperty : String
  experience : InitInputs
  loop : List LoopInputs
  destroyEglBeginPbuffer : Bool

/-- A call `android_main` makes; the experience's calls are logged inside the call that makes
them. -/
inductive AppCall
  | attachCurrentThread
  | makeEglData
  | xrInitializeLoader (result : XrResult)
  | xrCreateInstance (result : XrResult)
  | xrGetSystem
  | xrEnumerateViewConfigurations (result : XrResult)
  | xrEnumerateViewConfigurationViews (result : XrResult) (viewCount : Nat)
  | xrCreateSession (result : XrResult)
  | eglMutexCreate
  | streamClientNew
  | streamClientSetEglContext
  /-- `em_connection_new` of the URI, or `em_connection_new_localhost` for `none`, with
  `g_object_ref_sink`. -/
  | connectionNew (uri : Option String)
  | connectionConnect
  | streamClientSpawnThread
  | emRemoteExperienceNew (calls : List InitCall)
  | mainLoop (log : List LoopEvent)
  | clearConnection
  | emRemoteExperienceDestroy (calls : List Call)
  | eglMutexDestroy
  | resetEglData
  | detachCurrentThread
  deriving Repr

namespace MainInputs

variable (input : MainInputs)

/-- The normal OpenXR app startup of `android_main`, up to `xrCreateSession`: its calls, and
whether it gets through. -/
def startOpenXr : List AppCall × Bool :=
  let loaded := [AppCall.xrInitializeLoader input.initializeLoader]
  if input.initializeLoader.failed then (loaded, false) else
  let instanced := loaded ++ [.xrCreateInstance input.createInstance]
  if input.createInstance.failed then (instanced, false) else
  let configured := instanced ++
    [.xrGetSystem, .xrEnumerateViewConfigurations input.enumerateViewConfigurations]
  if input.enumerateViewConfigurations.failed then (configured, false) else
  let viewed := configured ++
    [.xrEnumerateViewConfigurationViews input.enumerateViewConfigurationViews input.viewCount]
  if input.enumerateViewConfigurationViews.failed || input.viewCount != 2 then (viewed, false)
  else (viewed ++ [.xrCreateSession input.createSession], !input.createSession.failed)

/-- The remote-rendering set-up of `android_main` before `em_remote_experience_new`: a
connection to the URI the property gives, or to localhost when it is empty. -/
def startRemoteRendering : List AppCall :=
  [.eglMutexCreate, .streamClientNew, .streamClientSetEglContext,
    .connectionNew
      (if input.websocketUriProperty.isEmpty then none else some input.websocketUriProperty),
    .connectionConnect, .streamClientSpawnThread]

/-- `em_xr_info`: the recommended size of the first view, as the eye extents. -/
def xrInfo : EmXrInfo :=
  ⟨⟨staticCastInt32 input.recommendedImageRectWidth,
    staticCastInt32 input.recommendedImageRectHeight⟩⟩

end MainInputs

/-- The clean-up after the main loop, as `android_main` does it. -/
def tearDown (exp : EmRemoteExperience) (eglCurrent : Bool) : List AppCall :=
  [.clearConnection, .emRemoteExperienceDestroy (exp.destroy eglCurrent).calls, .eglMutexDestroy,
    .resetEglData, .detachCurrentThread]

section AndroidMain

variable (convertTimespecTimeToTime : Timespec → Option XrTime)

/-- `android_main`; `none` when a frame aborts. Every `return` destroys `initialEglData`. -/
def androidMain (input : MainInputs) : Option (List AppCall) :=
  let started := [AppCall.attachCurrentThread, .makeEglData] ++ input.startOpenXr.1
  if !input.startOpenXr.2 then some (started ++ [.resetEglData]) else
  let created := emRemoteExperienceNew (some input.xrInfo) input.experience
  let setUp := started ++ input.startRemoteRendering ++ [.emRemoteExperienceNew created.2]
  match created.1 with
  | none => some (setUp ++ [.resetEglData])
  | some exp =>
      (mainLoop convertTimespecTimeToTime emStateCreate exp input.loop).map fun (_, exp', log) =>
        setUp ++ [.mainLoop log] ++ tearDown exp' input.destroyEglBeginPbuffer

end AndroidMain

/-! ## The app's view of the calls -/

/-- The experience's events of a list of calls, seen from the app. -/
def Call.appEvents (calls : List Call) : List (OwnershipEvent AppResource) :=
  (calls.filterMap Call.resourceEvent).map ResourceEvent.toApp

/-- What the main loop logs, seen from the app: the session calls use the session, and a
frame's calls are the experience's. -/
def LoopEvent.appEvents : LoopEvent → List (OwnershipEvent AppResource)
  | .xrBeginSession _ | .xrEndSession => [.used .xrSession]
  | .frame calls _ => Call.appEvents calls
  | _ => []

/-- What a call of `android_main` does to the app's resources. `em_remote_experience_new`
takes the stream client over from `android_main`. -/
def AppCall.appEvents : AppCall → List (OwnershipEvent AppResource)
  | .attachCurrentThread => [.acquired .jniThread]
  | .makeEglData => [.acquired .eglData]
  | .xrInitializeLoader _ => []
  | .xrCreateInstance result => if result.failed then [] else [.acquired .xrInstance]
  | .xrGetSystem | .xrEnumerateViewConfigurations _ | .xrEnumerateViewConfigurationViews _ _ =>
      [.used .xrInstance]
  | .xrCreateSession result =>
      [.used .xrInstance, .used .eglData] ++ if result.failed then [] else [.acquired .xrSession]
  | .eglMutexCreate => [.used .eglData, .acquired .eglMutex]
  | .streamClientNew => [.acquired .streamClient]
  | .streamClientSetEglContext => [.used .streamClient, .used .eglMutex, .used .eglData]
  | .connectionNew _ => [.acquired .connectionRef]
  | .connectionConnect => [.used .connectionRef]
  | .streamClientSpawnThread => [.used .streamClient, .used .connectionRef]
  | .emRemoteExperienceNew calls =>
      .released .streamClient :: (calls.filterMap InitCall.resourceEvent).map ResourceEvent.toApp
  | .mainLoop log => log.flatMap LoopEvent.appEvents
  | .clearConnection => [.released .connectionRef]
  | .emRemoteExperienceDestroy calls => Call.appEvents calls
  | .eglMutexDestroy => [.released .eglMutex]
  | .resetEglData => [.released .eglData]
  | .detachCurrentThread => [.released .jniThread]

/-! ## The phases of `android_main` -/

open OwnershipEvent

/-- `android_main` first attaches its thread and makes the initial EGL data. -/
theorem started_holding :
    holding [] ([AppCall.attachCurrentThread, .makeEglData].flatMap AppCall.appEvents) =
      some [.jniThread, .eglData] := rfl

/-- The OpenXR startup acquires the instance when the loader and `xrCreateInstance` succeed,
and the session when the whole startup gets through. -/
theorem startOpenXr_holding (input : MainInputs) :
    holding [.jniThread, .eglData] (input.startOpenXr.1.flatMap AppCall.appEvents) =
      some ([.jniThread, .eglData] ++
        (if input.initializeLoader.failed || input.createInstance.failed then [] else [.xrInstance]) ++
        (if input.startOpenXr.2 then [.xrSession] else [])) := by
  cases loader : input.initializeLoader.failed
  case true => simp [MainInputs.startOpenXr, loader, AppCall.appEvents, holding]
  cases instanced : input.createInstance.failed
  case true => simp [MainInputs.startOpenXr, loader, instanced, AppCall.appEvents, holding]
  cases configured : input.enumerateViewConfigurations.failed
  case true =>
    simp [MainInputs.startOpenXr, loader, instanced, configured, AppCall.appEvents, holding]
  cases viewed : input.enumerateViewConfigurationViews.failed || input.viewCount != 2
  case true =>
    simp [MainInputs.startOpenXr, loader, instanced, configured, viewed, AppCall.appEvents,
      holding]
  cases sessioned : input.createSession.failed <;>
    simp [MainInputs.startOpenXr, loader, instanced, configured, viewed, sessioned,
      AppCall.appEvents, holding]

/-- The remote-rendering set-up acquires the EGL mutex, the stream client and a reference on
the connection. -/
theorem startRemoteRendering_holding (input : MainInputs) :
    holding [.jniThread, .eglData, .xrInstance, .xrSession]
        (input.startRemoteRendering.flatMap AppCall.appEvents) =
      some [.jniThread, .eglData, .xrInstance, .xrSession, .eglMutex, .streamClient,
        .connectionRef] := by
  simp [MainInputs.startRemoteRendering, AppCall.appEvents, holding]

/-- `em_remote_experience_new` takes the stream client over, and its calls run the
experience's contract behind what `android_main` still holds. -/
theorem emRemoteExperienceNew_appEvents (calls : List InitCall) :
    holding [.jniThread, .eglData, .xrInstance, .xrSession, .eglMutex, .streamClient,
        .connectionRef] (AppCall.emRemoteExperienceNew calls).appEvents =
      (ResourceEvent.holding [] (calls.filterMap InitCall.resourceEvent)).map fun held =>
        [.jniThread, .eglData, .xrInstance, .xrSession, .eglMutex, .connectionRef] ++
          held.map .experience := by
  have handedOver := @holding_experience
    [.jniThread, .eglData, .xrInstance, .xrSession, .eglMutex, .connectionRef]
    (by simp) [] (calls.filterMap InitCall.resourceEvent)
  simpa [AppCall.appEvents, holding] using handedOver

/-- When the OpenXR startup gets through, the loader and the instance were made. -/
theorem startOpenXr_started {input : MainInputs} (started : input.startOpenXr.2 = true) :
    (input.initializeLoader.failed || input.createInstance.failed) = false := by
  cases loader : input.initializeLoader.failed
  case true => simp [MainInputs.startOpenXr, loader] at started
  cases instanced : input.createInstance.failed
  case true => simp [MainInputs.startOpenXr, loader, instanced] at started
  rfl

/-- An OpenXR startup that gets through acquires the instance and the session. -/
theorem startOpenXr_holding_of_started {input : MainInputs} (started : input.startOpenXr.2 = true) :
    holding [.jniThread, .eglData] (input.startOpenXr.1.flatMap AppCall.appEvents) =
      some [.jniThread, .eglData, .xrInstance, .xrSession] := by
  simpa [startOpenXr_started started, started] using startOpenXr_holding input

/-- Clean-up releases `android_main`'s connection reference, everything the live experience
holds, the EGL mutex, the initial EGL data and the thread's attachment: only the OpenXR
instance and session are left. -/
theorem tearDown_holding {exp : EmRemoteExperience} (live : exp.Live) :
    holding ([.jniThread, .eglData, .xrInstance, .xrSession, .eglMutex, .connectionRef] ++
        exp.heldResources.map .experience) ((tearDown exp true).flatMap AppCall.appEvents) =
      some [.xrInstance, .xrSession] := by
  have destroyed := @holding_experience [.jniThread, .eglData, .xrInstance, .xrSession, .eglMutex]
    (by simp) exp.heldResources ((exp.destroy true).calls.filterMap Call.resourceEvent)
  rw [EmRemoteExperience.destroy_releases_everything live] at destroyed
  simp only [tearDown, List.flatMap_cons, List.flatMap_nil, AppCall.appEvents, List.append_nil,
    List.singleton_append, holding_append]
  simp [holding, EmRemoteExperience.heldResources, Call.appEvents] at destroyed ⊢
  rw [holding_append, destroyed]
  rfl

section MainLoop

variable (convertTimespecTimeToTime : Timespec → Option XrTime)

/-- In the app's view a frame leaves what is held as it was, when the app holds what the
experience holds. -/
theorem pollAndRenderFrame_appEvents {exp : EmRemoteExperience} {input : FrameInputs}
    {frame : Effect} {result : EmPollRenderResult}
    (ran : EmRemoteExperience.pollAndRenderFrame convertTimespecTimeToTime exp input =
      some (frame, result))
    {extra : List AppResource} (ownOnly : ∀ resource, AppResource.experience resource ∉ extra) :
    holding (extra ++ exp.heldResources.map .experience) (Call.appEvents frame.calls) =
      some (extra ++ exp.heldResources.map .experience) := by
  have kept : ResourceEvent.holding exp.heldResources
      (frame.calls.filterMap Call.resourceEvent) = some exp.heldResources := by
    simpa using (EmRemoteExperience.pollAndRenderFrame_resourceEvents convertTimespecTimeToTime
      ran).holding (by simp [EmRemoteExperience.heldResources]) (fun _ mem => mem) []
  rw [Call.appEvents, holding_experience ownOnly, kept]
  rfl

/-- An iteration of the main loop keeps what the experience holds. -/
theorem mainLoopIteration_heldResources {state state' : EmState} {exp exp' : EmRemoteExperience}
    {input : LoopInputs} {events : List LoopEvent}
    (ran : mainLoopIteration convertTimespecTimeToTime state exp input = some (state', exp', events)) :
    exp'.heldResources = exp.heldResources := by
  rcases mainLoopIteration_rendered convertTimespecTimeToTime ran with
    ⟨rfl, -⟩ | ⟨frame, result, framed, rfl, -⟩
  · rfl
  · exact EmRemoteExperience.pollAndRenderFrame_heldResources convertTimespecTimeToTime framed

section Held

variable {extra : List AppResource} (ownOnly : ∀ resource, AppResource.experience resource ∉ extra)
  (sessionHeld : AppResource.xrSession ∈ extra)
include ownOnly sessionHeld

/-- In the app's view an iteration of the main loop leaves what is held as it was: its session
calls use the session, and its frame, if any, uses what the experience holds and opens and
closes the experience's EGL scope. -/
theorem mainLoopIteration_holding {state state' : EmState} {exp exp' : EmRemoteExperience}
    {input : LoopInputs} {events : List LoopEvent}
    (ran : mainLoopIteration convertTimespecTimeToTime state exp input = some (state', exp', events)) :
    holding (extra ++ exp.heldResources.map .experience) (events.flatMap LoopEvent.appEvents) =
      some (extra ++ exp.heldResources.map .experience) := by
  refine holding_flatMap_of_forall fun event mem => ?_
  cases event with
  | frame calls result =>
      have recorded : (calls, result) ∈ events.filterMap LoopEvent.rendered :=
        List.mem_filterMap.mpr ⟨_, mem, rfl⟩
      rcases mainLoopIteration_rendered convertTimespecTimeToTime ran with
        ⟨-, silent⟩ | ⟨frame, result', framed, -, one⟩
      · simp [silent] at recorded
      · obtain ⟨rfl, -⟩ : calls = frame.calls ∧ result = result' := by simpa [one] using recorded
        exact pollAndRenderFrame_appEvents convertTimespecTimeToTime framed ownOnly
  | _ => simp [LoopEvent.appEvents, holding, sessionHeld]

/-- In the app's view every run of the main loop leaves what is held as it was. -/
theorem mainLoop_holding {state state' : EmState} {exp exp' : EmRemoteExperience}
    {inputs : List LoopInputs} {log : List LoopEvent}
    (ran : mainLoop convertTimespecTimeToTime state exp inputs = some (state', exp', log)) :
    holding (extra ++ exp.heldResources.map .experience) (log.flatMap LoopEvent.appEvents) =
      some (extra ++ exp.heldResources.map .experience) := by
  induction inputs generalizing state exp log with
  | nil =>
      simp only [mainLoop, Option.some.injEq, Prod.mk.injEq] at ran
      obtain ⟨-, -, rfl⟩ := ran
      rfl
  | cons input inputs inductionHypothesis =>
      simp only [mainLoop, Option.bind_eq_some, Option.map_eq_some', Prod.exists,
        Prod.mk.injEq] at ran
      obtain ⟨state₁, exp₁, events, iterated, state₂, exp₂, rest, ranRest, rfl, rfl, rfl⟩ := ran
      rw [List.flatMap_append, holding_append,
        mainLoopIteration_holding convertTimespecTimeToTime ownOnly sessionHeld iterated,
        Option.some_bind, ← mainLoopIteration_heldResources convertTimespecTimeToTime iterated]
      exact inductionHypothesis ranRest

end Held

/-- Every run of the main loop keeps an experience live, holding the same resources. -/
theorem mainLoop_live {state state' : EmState} {exp exp' : EmRemoteExperience}
    {inputs : List LoopInputs} {log : List LoopEvent} (live : exp.Live)
    (ran : mainLoop convertTimespecTimeToTime state exp inputs = some (state', exp', log)) :
    exp'.Live ∧ exp'.heldResources = exp.heldResources := by
  induction inputs generalizing state exp log with
  | nil =>
      simp only [mainLoop, Option.some.injEq, Prod.mk.injEq] at ran
      obtain ⟨-, rfl, -⟩ := ran
      exact ⟨live, rfl⟩
  | cons input inputs inductionHypothesis =>
      simp only [mainLoop, Option.bind_eq_some, Option.map_eq_some', Prod.exists,
        Prod.mk.injEq] at ran
      obtain ⟨state₁, exp₁, events, iterated, state₂, exp₂, rest, ranRest, rfl, rfl, -⟩ := ran
      have stepped : exp₁.Live ∧ exp₁.heldResources = exp.heldResources := by
        rcases mainLoopIteration_rendered convertTimespecTimeToTime iterated with
          ⟨rfl, -⟩ | ⟨frame, result, framed, rfl, -⟩
        · exact ⟨live, rfl⟩
        · exact EmRemoteExperience.pollAndRenderFrame_live convertTimespecTimeToTime live framed
      obtain ⟨after, sameHeld⟩ := inductionHypothesis stepped.1 ranRest
      exact ⟨after, sameHeld.trans stepped.2⟩

end MainLoop

/-! ## Where `android_main` exits -/

section Exits

variable (convertTimespecTimeToTime : Timespec → Option XrTime)

/-- A launch in which every call succeeds, the property names no URI, and the session gets
`READY` and is then told to stop. -/
def healthyLaunch : MainInputs where
  initializeLoader := xrSuccess
  createInstance := xrSuccess
  enumerateViewConfigurations := xrSuccess
  enumerateViewConfigurationViews := xrSuccess
  viewCount := 2
  recommendedImageRectWidth := 1920
  recommendedImageRectHeight := 1080
  createSession := xrSuccess
  websocketUriProperty := ""
  experience := EmRemoteExperience.healthyStart
  loop := readyThenStopping
  destroyEglBeginPbuffer := true

/-- When the OpenXR startup gets through and `em_remote_experience_new` succeeds, with the
`egl_begin_pbuffer` of creation and of `em_remote_experience_destroy` making the context
current, then over every run of the main loop until `destroyRequested`, every resource of the
app is acquired before it is used and released at most once, and `android_main` exits holding
exactly the OpenXR instance and session, which it never destroys. -/
theorem androidMain_exit_holds_only_openxr {input : MainInputs} {log : List AppCall}
    (openXrStarted : input.startOpenXr.2 = true) (created : input.experience.failure = none)
    (eglCurrent : input.experience.eglBeginPbuffer = true)
    (destroyEglCurrent : input.destroyEglBeginPbuffer = true)
    (ran : androidMain convertTimespecTimeToTime input = some log) :
    holding [] (log.flatMap AppCall.appEvents) = some [.xrInstance, .xrSession] := by
  obtain ⟨exp, made⟩ : ∃ exp, (emRemoteExperienceNew (some input.xrInfo) input.experience).1 =
      some exp := ⟨_, emRemoteExperienceNew_succeeds created⟩
  obtain ⟨live, opened⟩ := EmRemoteExperience.emRemoteExperienceNew_live made eglCurrent
  have openXrHeld := startOpenXr_holding_of_started openXrStarted
  have handedOver := emRemoteExperienceNew_appEvents
    (emRemoteExperienceNew (some input.xrInfo) input.experience).2
  rw [opened] at handedOver
  simp only [androidMain, openXrStarted, made, destroyEglCurrent, Bool.not_true,
    Bool.false_eq_true, if_false] at ran
  obtain ⟨⟨state', exp', loopLog⟩, looped, rfl⟩ := Option.map_eq_some'.mp ran
  obtain ⟨liveAfter, sameHeld⟩ := mainLoop_live convertTimespecTimeToTime live looped
  have loopKept : holding
      ([.jniThread, .eglData, .xrInstance, .xrSession, .eglMutex, .connectionRef] ++
        exp.heldResources.map .experience) (AppCall.mainLoop loopLog).appEvents =
      some ([.jniThread, .eglData, .xrInstance, .xrSession, .eglMutex, .connectionRef] ++
        exp.heldResources.map .experience) :=
    mainLoop_holding convertTimespecTimeToTime (by simp) (by simp) looped
  have closed := tearDown_holding liveAfter
  rw [sameHeld] at closed
  simp only [List.flatMap_append, List.flatMap_singleton, holding_append, started_holding,
    Option.some_bind, openXrHeld, startRemoteRendering_holding, handedOver, Option.map_some',
    loopKept, closed]

theorem androidMain_exit_holds_only_openxr_on_healthy_launch :
    healthyLaunch.startOpenXr.2 = true ∧ healthyLaunch.experience.failure = none ∧
      healthyLaunch.experience.eglBeginPbuffer = true ∧
      healthyLaunch.destroyEglBeginPbuffer = true ∧
      ∃ log, androidMain (fun time => some time.tvSec) healthyLaunch = some log ∧
        holding [] (log.flatMap AppCall.appEvents) = some [.xrInstance, .xrSession] :=
  ⟨rfl, rfl, rfl, rfl, _, rfl,
    @androidMain_exit_holds_only_openxr (fun time => some time.tvSec) healthyLaunch _ rfl rfl rfl
      rfl rfl⟩

end Exits

end Client
end ElectricMaple
