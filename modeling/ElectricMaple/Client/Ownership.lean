import ElectricMaple.Client.Experience

/-!
# Sample ownership

The stream client hands out each decoded sample with a reference the caller must give back
with `em_stream_client_release_sample`, exactly once, and the caller may read a sample only
while it holds it. `SampleEvent.holding` runs that contract over a trace of pulls, reads and
releases; the render loop's calls, seen through `Call.sampleEvent`, are accepted by it, with
exactly `prev_sample` held between frames and nothing held after
`em_remote_experience_destroy`.
-/

namespace ElectricMaple
namespace Client

/-! ## The contract -/

/-- What a caller does with a sample, named by its address. -/
inductive SampleEvent
  | pulled (sample : Nat)
  | read (sample : Nat)
  | released (sample : Nat)
  deriving DecidableEq, Repr

namespace SampleEvent

/-- The samples held after a trace, starting from `held`; `none` at the first pull of a
sample already held, or read or release of a sample not held. -/
def holding : List Nat → List SampleEvent → Option (List Nat)
  | held, [] => some held
  | held, pulled sample :: events =>
      if sample ∈ held then none else holding (held ++ [sample]) events
  | held, read sample :: events => if sample ∈ held then holding held events else none
  | held, released sample :: events =>
      if sample ∈ held then holding (held.erase sample) events else none

theorem holding_append (held : List Nat) (first second : List SampleEvent) :
    holding held (first ++ second) = (holding held first).bind (holding · second) := by
  induction first generalizing held with
  | nil => rfl
  | cons event first inductionHypothesis =>
      cases event <;> simp only [List.cons_append, holding] <;> split_ifs <;>
        simp [inductionHypothesis]

/-- Along an accepted trace, each sample is pulled as often as it is released, up to whether
it is held before and after. -/
theorem holding_count {held held' : List Nat} {events : List SampleEvent}
    (accepted : holding held events = some held') (sample : Nat) :
    events.count (pulled sample) + held.count sample =
      events.count (released sample) + held'.count sample := by
  induction events generalizing held with
  | nil =>
      simp only [holding, Option.some.injEq] at accepted
      simp [accepted]
  | cons event events inductionHypothesis =>
      cases event with
      | pulled new =>
          simp only [holding] at accepted
          split_ifs at accepted
          have counted := inductionHypothesis accepted
          simp only [List.count_cons, List.count_append, List.count_nil, beq_iff_eq,
            pulled.injEq, reduceCtorEq, if_false] at counted ⊢
          split_ifs at counted ⊢ <;> omega
      | read other =>
          simp only [holding] at accepted
          split_ifs at accepted
          simpa [List.count_cons] using inductionHypothesis accepted
      | released old =>
          simp only [holding] at accepted
          split_ifs at accepted with held_old
          have counted := inductionHypothesis accepted
          have erased := List.count_erase sample old held
          have present := List.count_pos_iff.mpr held_old
          simp only [List.count_cons, beq_iff_eq, pulled.injEq, released.injEq, reduceCtorEq,
            if_false] at counted erased ⊢
          split_ifs at counted erased ⊢ <;> subst_vars <;> omega

/-- A sample held after a trace from nothing was pulled in it. -/
theorem pulled_of_holding {held : List Nat} {events : List SampleEvent}
    (accepted : holding [] events = some held) {sample : Nat} (holds : sample ∈ held) :
    pulled sample ∈ events := by
  have counted := holding_count accepted sample
  rw [List.count_nil, Nat.add_zero] at counted
  have := List.count_pos_iff.mpr holds
  exact List.count_pos_iff.mp (by omega)

/-- Along an accepted trace from nothing that pulls a sample at most once, the sample is not
released before a read of it. -/
theorem released_not_before_read {events pre post : List SampleEvent} {held : List Nat}
    {sample : Nat} (accepted : holding [] events = some held)
    (split : events = pre ++ read sample :: post) (pulledOnce : events.count (pulled sample) ≤ 1) :
    released sample ∉ pre := by
  intro releasedBefore
  subst split
  obtain ⟨heldPre, acceptedPre, readHeld⟩ :=
    Option.bind_eq_some.mp ((holding_append [] pre _).symm.trans accepted)
  have holds : sample ∈ heldPre := by
    simp only [holding] at readHeld
    split_ifs at readHeld with holds
    exact holds
  have counted := holding_count acceptedPre sample
  rw [List.count_nil, Nat.add_zero] at counted
  rw [List.count_append] at pulledOnce
  have := List.count_pos_iff.mpr holds
  have := List.count_pos_iff.mpr releasedBefore
  omega

end SampleEvent

/-- The contract's view of a call. -/
def Call.sampleEvent : Call → Option SampleEvent
  | .tryPullSample (some sample) => some (.pulled sample)
  | .readSample sample => some (.read sample)
  | .releaseSample sample => some (.released sample)
  | _ => none

theorem count_filterMap_sampleEvent (calls : List Call) (sample : Nat) :
    (calls.filterMap Call.sampleEvent).count (.pulled sample) =
        calls.count (.tryPullSample (some sample)) ∧
      (calls.filterMap Call.sampleEvent).count (.released sample) =
        calls.count (.releaseSample sample) := by
  induction calls with
  | nil => simp
  | cons call calls inductionHypothesis =>
      cases call <;> simp [Call.sampleEvent, List.count_cons, inductionHypothesis]
      case tryPullSample pulled =>
        cases pulled <;> simp [Call.sampleEvent, List.count_cons, inductionHypothesis]

/-- `try_pull_sample`'s answer, as a call records it. -/
def Call.pulledSample : Call → Option Nat
  | .tryPullSample sample => sample
  | _ => none

/-- When the samples pulled are distinct, each is pulled at most once. -/
theorem count_tryPullSample_le_one {calls : List Call}
    (fresh : (calls.filterMap Call.pulledSample).Nodup) (sample : Nat) :
    calls.count (.tryPullSample (some sample)) ≤ 1 := by
  induction calls with
  | nil => simp
  | cons call calls inductionHypothesis =>
      rw [List.count_cons]
      cases call
      case tryPullSample pulled =>
        cases pulled with
        | none =>
            simpa [Call.pulledSample] using
              inductionHypothesis (by simpa [Call.pulledSample] using fresh)
        | some other =>
            simp only [List.filterMap_cons, Call.pulledSample, List.nodup_cons] at fresh
            by_cases same : other = sample
            · subst same
              have absent : calls.count (.tryPullSample (some other)) = 0 :=
                List.count_eq_zero.mpr fun mem =>
                  fresh.1 (List.mem_filterMap.mpr ⟨_, mem, rfl⟩)
              simp [absent]
            · simpa [same] using inductionHypothesis fresh.2
      all_goals
        simp only [List.filterMap_cons, Call.pulledSample] at fresh
        simpa using inductionHypothesis fresh

/-! ## One frame -/

namespace EmRemoteExperience

variable (convertTimespecTimeToTime : Timespec → Option XrTime)

/-- A frame either leaves the samples alone, or pulls a sample, reads it, releases the
previous one, reads the new one again and holds it. -/
theorem pollAndRenderFrame_sampleEvents {exp : EmRemoteExperience} {input : FrameInputs}
    {frame : Effect} {result : EmPollRenderResult}
    (ran : pollAndRenderFrame convertTimespecTimeToTime exp input = some (frame, result)) :
    (frame.calls.filterMap Call.sampleEvent = [] ∧ frame.exp.prevSample = exp.prevSample) ∨
    ∃ sample, frame.calls.filterMap Call.sampleEvent =
        [.pulled sample.id, .read sample.id] ++
          (exp.prevSample.map fun prev => SampleEvent.released prev.id).toList ++ [.read sample.id] ∧
      frame.exp.prevSample = some sample := by
  have noReport : ∀ exp time located,
      (reportPose exp time located).calls.filterMap Call.sampleEvent = [] :=
    filterMap_reportPose_calls (fun _ _ _ => rfl) (fun _ => rfl)
  have noTiming : ∀ exp beginFrameTime decodeEndTime time frameSequenceId,
      (reportFrameTiming convertTimespecTimeToTime exp beginFrameTime decodeEndTime time
        frameSequenceId).calls.filterMap Call.sampleEvent = [] :=
    filterMap_reportFrameTiming_calls convertTimespecTimeToTime fun _ => rfl
  rcases pollAndRenderFrame_cases convertTimespecTimeToTime ran with
    ⟨-, rfl, -⟩ | ⟨-, -, -, rfl, -⟩ | ⟨beginTime, -, -, -, ⟨-, rfl, -⟩ | ⟨-, -, rfl, -⟩ |
      ⟨-, -, rendered, envBlendMode, layers, composed, rfl⟩⟩
  · exact .inl ⟨rfl, rfl⟩
  · exact .inl ⟨rfl, rfl⟩
  · exact .inl ⟨rfl, rfl⟩
  · exact .inl ⟨rfl, rfl⟩
  rcases composeLayers_cases convertTimespecTimeToTime composed with
    ⟨-, rfl, -⟩ | ⟨-, layer, inner, -⟩
  · exact .inl ⟨by simp [Call.sampleEvent, noReport], by rw [reportPose_exp]⟩
  rcases innerPollAndRenderFrame_cases convertTimespecTimeToTime inner with
    ⟨-, rfl, -⟩ | ⟨sample, decodeEndTime, -, -, -, -, -, rfl⟩
  · exact .inl ⟨by simp [Call.sampleEvent, noReport], by rw [reportPose_exp]⟩
  refine .inr ⟨sample, ?_, by rw [reportPose_exp, reportFrameTiming_exp]⟩
  cases exp.prevSample <;>
    simp [Call.sampleEvent, noReport, noTiming, apply_ite (List.filterMap Call.sampleEvent)]

/-- `em_remote_experience_destroy` releases the held sample when there is a stream client. -/
theorem destroy_sampleEvents (exp : EmRemoteExperience) (eglCurrent : Bool)
    (streamClientHeld : exp.streamClient = true) :
    (exp.destroy eglCurrent).calls.filterMap Call.sampleEvent =
      (exp.prevSample.map fun prev => SampleEvent.released prev.id).toList := by
  simp only [destroy, dispose, finalize, streamClientHeld, if_true, List.filterMap_append,
    List.filterMap_cons, List.filterMap_nil, apply_ite (List.filterMap Call.sampleEvent),
    Call.sampleEvent, ite_self, List.nil_append, List.append_nil]
  cases exp.prevSample <;> rfl

/-! ## Whole runs -/

/-- The samples the contract sees held are `prev_sample`. -/
def HoldsPrevSample (exp : EmRemoteExperience) (calls : List Call) : Prop :=
  (∀ sample, calls.count (.tryPullSample (some sample)) ≤ 1) →
    SampleEvent.holding [] (calls.filterMap Call.sampleEvent) =
      some (exp.prevSample.map (·.id)).toList

theorem pollAndRenderFrame_holdsPrevSample {exp : EmRemoteExperience} {calls : List Call}
    {input : FrameInputs} {frame : Effect} {result : EmPollRenderResult}
    (holds : HoldsPrevSample exp calls)
    (ran : pollAndRenderFrame convertTimespecTimeToTime exp input = some (frame, result)) :
    HoldsPrevSample frame.exp (calls ++ frame.calls) := by
  intro fresh
  have before := holds fun sample =>
    (List.Sublist.count_le (List.sublist_append_left _ _) _).trans (fresh sample)
  rw [List.filterMap_append, SampleEvent.holding_append, before, Option.some_bind]
  rcases pollAndRenderFrame_sampleEvents convertTimespecTimeToTime ran with
    ⟨noEvents, kept⟩ | ⟨sample, events, adopted⟩
  · rw [noEvents, kept]
    rfl
  have pulledOnce := fresh sample.id
  have pulledNow : 0 < frame.calls.count (.tryPullSample (some sample.id)) := by
    rw [← (count_filterMap_sampleEvent frame.calls sample.id).1, events]
    simp
  rw [events, adopted]
  cases previous : exp.prevSample with
  | none => simp [SampleEvent.holding]
  | some prev =>
      have different : sample.id ≠ prev.id := by
        rintro same
        have pulledBefore := SampleEvent.pulled_of_holding before
          (show sample.id ∈ (exp.prevSample.map (·.id)).toList by simp [previous, same])
        rw [← List.count_pos_iff, (count_filterMap_sampleEvent calls sample.id).1] at pulledBefore
        rw [List.count_append] at pulledOnce
        omega
      simp [SampleEvent.holding, different, different.symm]

theorem runFrames_holdsPrevSample {exp : EmRemoteExperience} {inputs : List FrameInputs}
    {frames : Effect} {results : List EmPollRenderResult} (noneHeld : exp.prevSample = none)
    (ran : runFrames convertTimespecTimeToTime exp inputs = some (frames, results)) :
    HoldsPrevSample frames.exp frames.calls :=
  runFrames_preserves convertTimespecTimeToTime HoldsPrevSample
    (fun _ _ _ _ _ _ holds framed =>
      pollAndRenderFrame_holdsPrevSample convertTimespecTimeToTime holds framed)
    (fun _ => by simp [SampleEvent.holding, noneHeld]) ran

theorem runFrames_streamClient {exp : EmRemoteExperience} {inputs : List FrameInputs}
    {frames : Effect} {results : List EmPollRenderResult}
    (ran : runFrames convertTimespecTimeToTime exp inputs = some (frames, results)) :
    frames.exp.streamClient = exp.streamClient :=
  runFrames_preserves convertTimespecTimeToTime (fun current _ => current.streamClient = exp.streamClient)
    (fun _ _ _ _ _ _ kept framed =>
      (congrArg streamClient (pollAndRenderFrame_exp convertTimespecTimeToTime framed)).trans kept)
    rfl ran

theorem count_le_of_append_left {calls more : List Call} {call : Call}
    (bounded : (calls ++ more).count call ≤ 1) : calls.count call ≤ 1 :=
  ((List.sublist_append_left _ _).count_le _).trans bounded

/-- When `try_pull_sample` hands out fresh samples, every sample pulled during a run ended by
`em_remote_experience_destroy` is released as often as it was pulled, that is exactly once; no
sample is read after it was released; and between frames the samples held are exactly
`prev_sample`. -/
theorem samples_released_exactly_once {exp : EmRemoteExperience} {inputs : List FrameInputs}
    {eglCurrent : Bool} {effect : Effect} {results : List EmPollRenderResult}
    (noneHeld : exp.prevSample = none) (streamClientHeld : exp.streamClient = true)
    (ran : runThenDestroy convertTimespecTimeToTime exp inputs eglCurrent = some (effect, results))
    (fresh : (effect.calls.filterMap Call.pulledSample).Nodup) :
    (∀ sample, effect.calls.count (.releaseSample sample) =
      effect.calls.count (.tryPullSample (some sample))) ∧
    (∀ pre sample post, effect.calls = pre ++ .readSample sample :: post →
      .releaseSample sample ∉ pre) ∧
    (∀ done rest, inputs = done ++ rest → ∀ frames doneResults,
      runFrames convertTimespecTimeToTime exp done = some (frames, doneResults) →
      SampleEvent.holding [] (frames.calls.filterMap Call.sampleEvent) =
        some (frames.exp.prevSample.map (·.id)).toList) := by
  obtain ⟨⟨frames, frameResults⟩, ranFrames, finished⟩ := Option.map_eq_some'.mp ran
  simp only [Prod.mk.injEq] at finished
  obtain ⟨rfl, -⟩ := finished
  have freshCounts := count_tryPullSample_le_one fresh
  have heldFrames := runFrames_holdsPrevSample convertTimespecTimeToTime noneHeld ranFrames
    fun sample => count_le_of_append_left (freshCounts sample)
  have accepted : SampleEvent.holding []
      ((frames.calls ++ (frames.exp.destroy eglCurrent).calls).filterMap Call.sampleEvent) =
        some [] := by
    rw [List.filterMap_append, SampleEvent.holding_append, heldFrames, Option.some_bind,
      destroy_sampleEvents _ _
        ((runFrames_streamClient convertTimespecTimeToTime ranFrames).trans streamClientHeld)]
    cases frames.exp.prevSample <;> simp [SampleEvent.holding]
  refine ⟨fun sample => ?_, fun pre sample post split releasedBefore => ?_,
    fun done rest split doneFrames doneResults ranDone => ?_⟩
  · have counted := SampleEvent.holding_count accepted sample
    obtain ⟨pulls, releases⟩ := count_filterMap_sampleEvent
      (frames.calls ++ (frames.exp.destroy eglCurrent).calls) sample
    rw [List.count_nil, Nat.add_zero, Nat.add_zero, pulls, releases] at counted
    exact counted.symm
  · change frames.calls ++ _ = _ at split
    have splitEvents : (frames.calls ++ (frames.exp.destroy eglCurrent).calls).filterMap
        Call.sampleEvent =
          pre.filterMap Call.sampleEvent ++ .read sample :: post.filterMap Call.sampleEvent := by
      rw [split, List.filterMap_append, List.filterMap_cons_some
        (show Call.sampleEvent (.readSample sample) = some (.read sample) from rfl)]
    exact SampleEvent.released_not_before_read accepted splitEvents
      ((count_filterMap_sampleEvent _ sample).1.trans_le (freshCounts sample))
      (List.mem_filterMap.mpr ⟨_, releasedBefore, rfl⟩)
  · subst split
    obtain ⟨first, firstResults, second, secondResults, ranFirst, -, joined, -⟩ :=
      (runFrames_append_eq_some convertTimespecTimeToTime).mp ranFrames
    rw [ranDone, Option.some.injEq, Prod.mk.injEq] at ranFirst
    obtain ⟨rfl, -⟩ := ranFirst
    refine runFrames_holdsPrevSample convertTimespecTimeToTime noneHeld ranDone fun sample => ?_
    have pulledOnce := freshCounts sample
    rw [joined, List.append_assoc] at pulledOnce
    exact count_le_of_append_left pulledOnce

/-! ## Two frames -/

/-- An experience as `em_remote_experience_new` leaves it: world space `1`, view space `2`,
swapchain `3`, no sample held and the first message id `1`. -/
def newExperience : EmRemoteExperience :=
  ⟨true, true, true, none, ⟨960, 1080⟩, 1, 2, 3, 1⟩

/-- Sample `7`, whose two poses have the identity orientation. -/
def sampleSeven : EmSample where
  id := 7
  envBlendMode := 0
  additiveBlackThreshold := 0
  poses := (⟨⟨0, 0, 0, 0x3f800000⟩, {}⟩, ⟨⟨0, 0, 0, 0x3f800000⟩, {}⟩)
  frameTextureId := 5
  frameTextureTarget := 0x0DE1
  frameSequenceId := 1

/-- A frame on a healthy runtime that should be rendered, in which `try_pull_sample`
answers `pulled`. -/
def healthyFrame (pulled : Option (EmSample × Timespec)) : FrameInputs where
  waitFrame := xrSuccess
  frameState := ⟨1000, true⟩
  beginFrame := xrSuccess
  clockGettime := some ⟨1, 0⟩
  locateViews := xrSuccess
  views := (⟨{}, {}⟩, ⟨{}, {}⟩)
  eglBeginPbuffer := true
  pulled := pulled
  passthroughLayer := ⟨none, xrEnvironmentBlendModeOpaque, 0⟩
  useAlphaBlendForAdditive := false
  acquireSwapchainImage := (xrSuccess, 0)
  waitSwapchainImage := xrSuccess
  locateSpace := (xrSuccess, {})

/-- Two healthy frames: the first pulls sample `7`, the second finds none. -/
def sampleThenStall : List FrameInputs :=
  [healthyFrame (some (sampleSeven, ⟨1, 0⟩)), healthyFrame none]

/-- The projection layer a frame of `sampleThenStall` submits: in world space `1`, each eye on
its half of swapchain `3`, with the poses `poses`. -/
def sampleThenStallLayer (poses : Posef × Posef) : CompositionLayer :=
  .projection ⟨0, 1, (⟨poses.1, {}, ⟨3, ⟨⟨0, 0⟩, ⟨960, 1080⟩⟩⟩⟩, ⟨poses.2, {}, ⟨3, ⟨⟨960, 0⟩, ⟨960, 1080⟩⟩⟩⟩)⟩

/-- The calls of the frames of `sampleThenStall`, every time converting: the first draws
sample `7` and reports its timing and the head pose; the second pulls nothing, submits the
layer with the zero pose and reports the head pose. -/
def sampleThenStallCalls : List Call :=
  [.xrWaitFrame xrSuccess, .xrBeginFrame, .xrLocateViews 1000 1, .eglBeginPbuffer true,
    .tryPullSample (some 7), .readSample 7, .xrAcquireSwapchainImage 3, .xrWaitSwapchainImage 3,
    .glBindFramebuffer (some 0), .draw ⟨5, 0x0DE1, false, .defaultBlackThreshold⟩,
    .glBindFramebuffer none, .xrReleaseSwapchainImage 3, .readSample 7,
    .sendBytes { upMessageId := 1, frame := some ⟨1, 1, 1, 1000⟩ },
    .xrEndFrame ⟨1000, xrEnvironmentBlendModeOpaque, [sampleThenStallLayer sampleSeven.poses]⟩,
    .eglEnd, .xrLocateSpace 2 1 1000, .sendBytes { upMessageId := 2, tracking := some (.ofPose {}) },
    .xrWaitFrame xrSuccess, .xrBeginFrame, .xrLocateViews 1000 1, .eglBeginPbuffer true,
    .tryPullSample none, .xrEndFrame ⟨1000, xrEnvironmentBlendModeOpaque, [sampleThenStallLayer ({}, {})]⟩,
    .eglEnd, .xrLocateSpace 2 1 1000, .sendBytes { upMessageId := 3, tracking := some (.ofPose {}) }]

/-- What `sampleThenStall` and `em_remote_experience_destroy` do, every time converting: the
frames' calls, then the teardown, which gives sample `7` back; the frames return `NEW_SAMPLE`
and `REUSED_SAMPLE`. -/
def sampleThenStallDestroyed : Effect × List EmPollRenderResult :=
  (⟨{ newExperience with
      connection := false
      streamClient := false
      renderer := false
      worldSpace := 0
      viewSpace := 0
      swapchain := 0
      nextUpMessage := 4 },
    sampleThenStallCalls ++
      [.streamClientStop, .eglBeginPbuffer true, .rendererReset, .eglEnd, .releaseSample 7,
        .connectionDisconnect, .streamClientDestroy, .connectionUnref, .swapchainBuffersReset,
        .xrDestroySwapchain 3, .xrDestroySpace 2, .xrDestroySpace 1]⟩,
    [.newSample, .reusedSample])

theorem samples_released_exactly_once_sample_then_stall :
    newExperience.prevSample = none ∧ newExperience.streamClient = true ∧
      runThenDestroy (fun time => some time.tvSec) newExperience sampleThenStall true =
        some sampleThenStallDestroyed ∧
      (sampleThenStallDestroyed.1.calls.filterMap Call.pulledSample).Nodup ∧
      (∀ sample, sampleThenStallDestroyed.1.calls.count (.releaseSample sample) =
        sampleThenStallDestroyed.1.calls.count (.tryPullSample (some sample))) ∧
      (∀ pre sample post, sampleThenStallDestroyed.1.calls = pre ++ .readSample sample :: post →
        .releaseSample sample ∉ pre) ∧
      (∀ done rest, sampleThenStall = done ++ rest → ∀ frames doneResults,
        runFrames (fun time => some time.tvSec) newExperience done = some (frames, doneResults) →
        SampleEvent.holding [] (frames.calls.filterMap Call.sampleEvent) =
          some (frames.exp.prevSample.map (·.id)).toList) :=
  ⟨rfl, rfl, rfl, by decide,
    @samples_released_exactly_once (fun time => some time.tvSec) newExperience sampleThenStall true
      sampleThenStallDestroyed.1 sampleThenStallDestroyed.2 rfl rfl rfl (by decide)⟩

end EmRemoteExperience

end Client
end ElectricMaple
