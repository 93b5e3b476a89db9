import ElectricMaple.Client.UpMessages

/-!
# The session gate of the main loop

Each iteration of `android_main`'s loop runs `poll_events`, which handles every event
`xrPollEvent` delivers (calling `xrBeginSession` on `READY` and `xrEndSession` on `STOPPING`),
and then renders a frame unless the last session state delivered is below `READY` in the
numeric order of `XrSessionState`. That order puts `STOPPING`, `LOSS_PENDING` and `EXITING`
after `READY`, and the gate does not look at whether `xrBeginSession` succeeded: a frame is
rendered exactly when the last state delivered is `READY` or later, running session or not.
-/

namespace ElectricMaple
namespace Client

/-- `XrSessionState`. -/
inductive XrSessionState
  | unknown
  | idle
  | ready
  | synchronized
  | visible
  | focused
  | stopping
  | lossPending
  | exiting
  deriving DecidableEq, Repr

/-- The value of an `XrSessionState` in the OpenXR headers. -/
def XrSessionState.value : XrSessionState → Nat
  | .unknown => 0
  | .idle => 1
  | .ready => 2
  | .synchronized => 3
  | .visible => 4
  | .focused => 5
  | .stopping => 6
  | .lossPending => 7
  | .exiting => 8

/-- What one `xrPollEvent` delivers: a session state change, or another event. -/
inductive XrEventDataBuffer
  | sessionStateChanged (state : XrSessionState)
  | other
  deriving DecidableEq, Repr

/-- The field of `struct em_state` that `poll_events` keeps. -/
structure EmState where
  sessionState : XrSessionState
  deriving DecidableEq, Repr

/-- `em_state state = {}`. -/
def emStateCreate : EmState := ⟨.unknown⟩

/-- What the main loop sees and does: events delivered, session calls, the wait for `READY`,
and each `poll_and_render_frame` with its calls and result. -/
inductive LoopEvent
  | delivered (buffer : XrEventDataBuffer)
  | xrBeginSession (result : XrResult)
  | xrEndSession
  | waitForReady
  | frame (calls : List Call) (result : EmPollRenderResult)
  deriving DecidableEq, Repr

/-- What a log records of a `poll_and_render_frame` call: its calls and its result. -/
def LoopEvent.rendered : LoopEvent → Option (List Call × EmPollRenderResult)
  | .frame calls result => some (calls, result)
  | _ => none

/-- What one iteration of the main loop meets: each event `xrPollEvent` delivers, with the
runtime's answer to the `xrBeginSession` a `READY` event calls, and the answers of the frame. -/
structure LoopInputs where
  events : List (XrEventDataBuffer × XrResult)
  frame : FrameInputs
  deriving DecidableEq, Repr

/-- The body of `poll_events`' `while (xrPollEvent(...) == XR_SUCCESS)` loop for one event. -/
def handleEvent (state : EmState) (buffer : XrEventDataBuffer) (beginResult : XrResult) :
    EmState × List LoopEvent :=
  match buffer with
  | .sessionStateChanged newState =>
      (⟨newState⟩, .delivered buffer ::
        match newState with
        | .ready => [.xrBeginSession beginResult]
        | .stopping => [.xrEndSession]
        | _ => [])
  | .other => (state, [.delivered buffer])

/-- `poll_events`' loop over the events `xrPollEvent` delivers. -/
def handleEvents (state : EmState) : List (XrEventDataBuffer × XrResult) → EmState × List LoopEvent
  | [] => (state, [])
  | (buffer, beginResult) :: events =>
      let handled := handleEvent state buffer beginResult
      let rest := handleEvents handled.1 events
      (rest.1, handled.2 ++ rest.2)

/-- `poll_events`: handle the events, then wait and answer `false` while the session state is
below `READY`. -/
def pollEvents (state : EmState) (events : List (XrEventDataBuffer × XrResult)) :
    EmState × List LoopEvent × Bool :=
  let handled := handleEvents state events
  if handled.1.sessionState.value < XrSessionState.ready.value then
    (handled.1, handled.2 ++ [.waitForReady], false)
  else (handled.1, handled.2, true)

section MainLoop

variable (convertTimespecTimeToTime : Timespec → Option XrTime)

/-- One iteration of `android_main`'s loop: `if (poll_events(app, state))
em_remote_experience_poll_and_render_frame(remote_experience);`. -/
def mainLoopIteration (state : EmState) (exp : EmRemoteExperience) (input : LoopInputs) :
    Option (EmState × EmRemoteExperience × List LoopEvent) :=
  let polled := pollEvents state input.events
  if polled.2.2 then
    (EmRemoteExperience.pollAndRenderFrame convertTimespecTimeToTime exp input.frame).map
      fun (frame, result) => (polled.1, frame.exp, polled.2.1 ++ [.frame frame.calls result])
  else some (polled.1, exp, polled.2.1)

/-- The main loop until `destroyRequested`; `none` when a frame aborts. -/
def mainLoop (state : EmState) (exp : EmRemoteExperience) :
    List LoopInputs → Option (EmState × EmRemoteExperience × List LoopEvent)
  | [] => some (state, exp, [])
  | input :: inputs =>
      (mainLoopIteration convertTimespecTimeToTime state exp input).bind fun (state', exp', events) =>
        (mainLoop state' exp' inputs).map fun (state'', exp'', rest) =>
          (state'', exp'', events ++ rest)

end MainLoop

/-! ## The gate -/

open EmRemoteExperience

variable (convertTimespecTimeToTime : Timespec → Option XrTime)

/-- The session state the delivered events of a log leave, from `initial`. -/
def latestSessionState (initial : XrSessionState) (log : List LoopEvent) : XrSessionState :=
  log.foldl (fun current event =>
    match event with
    | .delivered (.sessionStateChanged state) => state
    | _ => current) initial

@[simp] theorem latestSessionState_nil (initial : XrSessionState) :
    latestSessionState initial [] = initial := rfl

theorem latestSessionState_append (initial : XrSessionState) (first second : List LoopEvent) :
    latestSessionState initial (first ++ second) =
      latestSessionState (latestSessionState initial first) second := by
  simp [latestSessionState, List.foldl_append]

theorem handleEvent_quiet (state : EmState) (buffer : XrEventDataBuffer) (beginResult : XrResult) :
    ∀ event ∈ (handleEvent state buffer beginResult).2,
      event ≠ .waitForReady ∧ ∀ calls result, event ≠ .frame calls result := by
  cases buffer with
  | sessionStateChanged newState => cases newState <;> simp [handleEvent]
  | other => simp [handleEvent]

/-- Handling events never waits nor renders, and leaves the state the events delivered. -/
theorem handleEvents_spec (state : EmState) (events : List (XrEventDataBuffer × XrResult)) :
    (handleEvents state events).1.sessionState =
        latestSessionState state.sessionState (handleEvents state events).2 ∧
      ∀ event ∈ (handleEvents state events).2,
        event ≠ .waitForReady ∧ ∀ calls result, event ≠ .frame calls result := by
  induction events generalizing state with
  | nil => simp [handleEvents]
  | cons delivered events inductionHypothesis =>
      obtain ⟨buffer, beginResult⟩ := delivered
      obtain ⟨latest, quiet⟩ := inductionHypothesis (handleEvent state buffer beginResult).1
      simp only [handleEvents, latestSessionState_append, List.mem_append]
      refine ⟨?_, fun event mem =>
        mem.elim (handleEvent_quiet state buffer beginResult event) (quiet event)⟩
      rw [latest]
      congr 1
      cases buffer with
      | sessionStateChanged newState =>
          cases newState <;> simp [handleEvent, latestSessionState]
      | other => simp [handleEvent, latestSessionState]

/-- A session that gets `READY` and begins, then synchronises and is told to stop. -/
def readyThenStopping : List LoopInputs :=
  [⟨[(.sessionStateChanged .ready, xrSuccess)], healthyFrame none⟩,
    ⟨[(.sessionStateChanged .synchronized, xrSuccess),
      (.sessionStateChanged .stopping, xrSuccess)], healthyFrame none⟩]

/-- An iteration either leaves the experience alone and renders nothing, or renders one frame
of its answers. -/
theorem mainLoopIteration_rendered {state state' : EmState} {exp exp' : EmRemoteExperience}
    {input : LoopInputs} {events : List LoopEvent}
    (ran : mainLoopIteration convertTimespecTimeToTime state exp input = some (state', exp', events)) :
    (exp' = exp ∧ events.filterMap LoopEvent.rendered = []) ∨
      ∃ frame result,
        pollAndRenderFrame convertTimespecTimeToTime exp input.frame = some (frame, result) ∧
        exp' = frame.exp ∧ events.filterMap LoopEvent.rendered = [(frame.calls, result)] := by
  have silent : (handleEvents state input.events).2.filterMap LoopEvent.rendered = [] :=
    List.filterMap_eq_nil_iff.mpr fun event mem => by
      have quiet := ((handleEvents_spec state input.events).2 event mem).2
      cases event with
      | frame calls result => exact absurd rfl (quiet calls result)
      | _ => rfl
  unfold mainLoopIteration pollEvents at ran
  by_cases belowReady :
      (handleEvents state input.events).1.sessionState.value < XrSessionState.ready.value
  · simp only [belowReady, if_true, Bool.false_eq_true, if_false, Option.some.injEq,
      Prod.mk.injEq] at ran
    obtain ⟨-, rfl, rfl⟩ := ran
    exact .inl ⟨rfl, by simp [silent, LoopEvent.rendered]⟩
  · simp only [belowReady, if_false, if_true] at ran
    obtain ⟨⟨frame, result⟩, framed, rendered⟩ := Option.map_eq_some'.mp ran
    simp only [Prod.mk.injEq] at rendered
    obtain ⟨-, rfl, rfl⟩ := rendered
    exact .inr ⟨frame, result, framed, rfl, by simp [silent, LoopEvent.rendered]⟩

end Client
end ElectricMaple
