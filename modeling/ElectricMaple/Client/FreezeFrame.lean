import ElectricMaple.Client.Ownership

/-!
# Freeze frames

When the decoder has no new sample, `em_remote_experience_inner_poll_and_render_frame` keeps
showing the sample it adopted last: it returns `REUSED_SAMPLE` while `prev_sample` is set and
`NO_SAMPLE_AVAILABLE` before. Along a run from an experience that holds no sample,
`prev_sample` is set exactly when an earlier frame adopted a sample, so what the inner function
returns is fixed by what `try_pull_sample` answers in this frame and in the frames before it.
-/

namespace ElectricMaple
namespace Client

/-- The frame reaches `em_remote_experience_inner_poll_and_render_frame`: `xrWaitFrame`,
`xrBeginFrame`, `clock_gettime`, `xrLocateViews` and `egl_begin_pbuffer` succeed, and the
runtime asks for the frame to be rendered. -/
def FrameInputs.reachesInner (input : FrameInputs) : Bool :=
  !input.waitFrame.failed && !input.beginFrame.failed && input.clockGettime.isSome &&
    !input.locateViews.failed && input.eglBeginPbuffer && input.frameState.shouldRender

/-- The frame adopts a sample: it reaches the inner function and `try_pull_sample` hands it
one. -/
def FrameInputs.adoptsSample (input : FrameInputs) : Bool :=
  input.reachesInner && input.pulled.isSome

/-- The freeze-frame policy: a pulled sample is new; without one, the frame reuses the sample
adopted before, if there is one. -/
def freezeFramePolicy (pulled adopted : Bool) : EmPollRenderResult :=
  if pulled then .newSample else if adopted then .reusedSample else .noSampleAvailable

@[simp] theorem freezeFramePolicy_eq_newSample (pulled adopted : Bool) :
    freezeFramePolicy pulled adopted = .newSample ↔ pulled = true := by
  cases pulled <;> cases adopted <;> decide

@[simp] theorem freezeFramePolicy_eq_reusedSample (pulled adopted : Bool) :
    freezeFramePolicy pulled adopted = .reusedSample ↔ pulled = false ∧ adopted = true := by
  cases pulled <;> cases adopted <;> decide

@[simp] theorem freezeFramePolicy_eq_noSampleAvailable (pulled adopted : Bool) :
    freezeFramePolicy pulled adopted = .noSampleAvailable ↔ pulled = false ∧ adopted = false := by
  cases pulled <;> cases adopted <;> decide

namespace EmRemoteExperience

variable (convertTimespecTimeToTime : Timespec → Option XrTime)

/-- A frame holds a sample afterwards exactly when it held one before or adopted one; when it
reaches the inner function it returns what the freeze-frame policy says, and otherwise one of
`poll_and_render_frame`'s own results. -/
theorem pollAndRenderFrame_freezeFrame {exp : EmRemoteExperience} {input : FrameInputs}
    {frame : Effect} {result : EmPollRenderResult}
    (ran : pollAndRenderFrame convertTimespecTimeToTime exp input = some (frame, result)) :
    frame.exp.prevSample.isSome = (exp.prevSample.isSome || input.adoptsSample) ∧
    if input.reachesInner then result = freezeFramePolicy input.pulled.isSome exp.prevSample.isSome
    else result ∈ [.errorWaitframe, .shouldNotRender, .errorEgl] := by
  rcases pollAndRenderFrame_cases convertTimespecTimeToTime ran with
    ⟨failed, rfl, rfl⟩ | ⟨-, -, clock, rfl, rfl⟩ | ⟨beginTime, waited, begun, clock,
      ⟨located, rfl, rfl⟩ | ⟨-, egl, rfl, rfl⟩ |
      ⟨located, egl, rendered, envBlendMode, layers, composed, rfl⟩⟩
  · simp [FrameInputs.adoptsSample, FrameInputs.reachesInner, failed]
  · simp [FrameInputs.adoptsSample, FrameInputs.reachesInner, clock]
  · simp [FrameInputs.adoptsSample, FrameInputs.reachesInner, located]
  · simp [FrameInputs.adoptsSample, FrameInputs.reachesInner, egl]
  rw [reportPose_exp]
  rcases composeLayers_cases convertTimespecTimeToTime composed with
    ⟨render, rfl, rfl, -⟩ | ⟨render, layer, inner, -⟩
  · simp [FrameInputs.adoptsSample, FrameInputs.reachesInner, render]
  have reaches : input.reachesInner = true := by
    simp [FrameInputs.reachesInner, waited, begun, clock, located, egl, render]
  rcases innerPollAndRenderFrame_cases convertTimespecTimeToTime inner with
    ⟨pulled, rfl, rfl, -⟩ | ⟨sample, decodeEndTime, pulled, -, -, rfl, -, rfl⟩
  · simp [FrameInputs.adoptsSample, freezeFramePolicy, reaches, pulled]
  · rw [reportFrameTiming_exp]
    simp [FrameInputs.adoptsSample, freezeFramePolicy, reaches, pulled]

/-- Along a run, a frame that reaches the inner function returns what the freeze-frame policy
says of its pulled sample and of whether a sample was held at the start or adopted by an
earlier frame. -/
theorem runFrames_freezeFrame {exp : EmRemoteExperience} {inputs : List FrameInputs}
    {effect : Effect} {results : List EmPollRenderResult}
    (ran : runFrames convertTimespecTimeToTime exp inputs = some (effect, results)) :
    results.length = inputs.length ∧
    ∀ pre input result post, inputs.zip results = pre ++ (input, result) :: post →
      if input.reachesInner then
        result = freezeFramePolicy input.pulled.isSome
          (exp.prevSample.isSome || pre.any fun earlier => earlier.1.adoptsSample)
      else result ∈ [.errorWaitframe, .shouldNotRender, .errorEgl] := by
  induction inputs generalizing exp effect results with
  | nil =>
      simp only [runFrames_nil, Option.some.injEq, Prod.mk.injEq] at ran
      obtain ⟨-, rfl⟩ := ran
      exact ⟨rfl, fun pre input result post split => by simp at split⟩
  | cons first inputs inductionHypothesis =>
      obtain ⟨frame, firstResult, rest, restResults, framed, ranRest, -, rfl⟩ :=
        (runFrames_cons_eq_some convertTimespecTimeToTime).mp ran
      obtain ⟨lengths, classified⟩ := inductionHypothesis ranRest
      obtain ⟨held, firstClassified⟩ :=
        pollAndRenderFrame_freezeFrame convertTimespecTimeToTime framed
      refine ⟨by simp [lengths], fun pre input result post split => ?_⟩
      rw [List.zip_cons_cons] at split
      cases pre with
      | nil =>
          simp only [List.nil_append, List.cons.injEq, Prod.mk.injEq] at split
          obtain ⟨⟨rfl, rfl⟩, -⟩ := split
          simpa using firstClassified
      | cons earliest pre =>
          simp only [List.cons_append, List.cons.injEq] at split
          obtain ⟨rfl, split⟩ := split
          simpa [held, Bool.or_assoc] using classified pre input result post split

/-- A frame whose result is not one of `poll_and_render_frame`'s own reached the inner function
and follows the policy. -/
theorem freezeFramePolicy_of_inner_result {input : FrameInputs} {result : EmPollRenderResult}
    {held : Bool}
    (classified : if input.reachesInner then result = freezeFramePolicy input.pulled.isSome held
      else result ∈ [.errorWaitframe, .shouldNotRender, .errorEgl])
    (notOuter : result ∉ [.errorWaitframe, .shouldNotRender, .errorEgl]) :
    input.reachesInner = true ∧ result = freezeFramePolicy input.pulled.isSome held := by
  split at classified
  · exact ⟨‹_›, classified⟩
  · exact absurd classified notOuter

/-- Along every run of the render loop from an experience that holds no sample, a frame that
reaches the inner function returns `NEW_SAMPLE` exactly when `try_pull_sample` yields a sample,
`REUSED_SAMPLE` exactly when it yields none and an earlier frame adopted a sample, and
`NO_SAMPLE_AVAILABLE` exactly when it yields none and no earlier frame did; the other frames
return `poll_and_render_frame`'s own results; and after a `NEW_SAMPLE` frame no frame returns
`NO_SAMPLE_AVAILABLE`. -/
theorem inner_result_follows_freeze_frame {exp : EmRemoteExperience}
    {inputs : List FrameInputs} {effect : Effect} {results : List EmPollRenderResult}
    (noneHeld : exp.prevSample = none)
    (ran : runFrames convertTimespecTimeToTime exp inputs = some (effect, results)) :
    results.length = inputs.length ∧
    (∀ pre input result post, inputs.zip results = pre ++ (input, result) :: post →
      input.reachesInner = true →
        (result = .newSample ↔ input.pulled.isSome) ∧
        (result = .reusedSample ↔
          input.pulled = none ∧ ∃ earlier ∈ pre, earlier.1.adoptsSample) ∧
        (result = .noSampleAvailable ↔
          input.pulled = none ∧ ∀ earlier ∈ pre, earlier.1.adoptsSample = false)) ∧
    (∀ pre input result post, inputs.zip results = pre ++ (input, result) :: post →
      input.reachesInner = false → result ∈ [.errorWaitframe, .shouldNotRender, .errorEgl]) ∧
    (∀ pre post, results = pre ++ .newSample :: post → .noSampleAvailable ∉ post) := by
  obtain ⟨lengths, classified⟩ := runFrames_freezeFrame convertTimespecTimeToTime ran
  have atFrame : ∀ pre input result post, inputs.zip results = pre ++ (input, result) :: post →
      if input.reachesInner then
        result = freezeFramePolicy input.pulled.isSome (pre.any fun earlier => earlier.1.adoptsSample)
      else result ∈ [.errorWaitframe, .shouldNotRender, .errorEgl] := fun pre input result post split => by
    simpa only [noneHeld, Option.isSome_none, Bool.false_or] using
      classified pre input result post split
  refine ⟨lengths, fun pre input result post split reaches => ?_,
    fun pre input result post split reaches => by simpa [reaches] using atFrame pre input result post split,
    fun pre post split noSample => ?_⟩
  · have policy := atFrame pre input result post split
    rw [if_pos reaches] at policy
    subst policy
    simp [Option.not_isSome_iff_eq_none]
  · obtain ⟨zipPre, zipRest, zipped, -, restResults⟩ :=
      List.map_eq_append_iff.mp ((List.map_snd_zip inputs results lengths.le).trans split)
    obtain ⟨newFrame, zipPost, rfl, newResult, postResults⟩ := List.map_eq_cons_iff.mp restResults
    obtain ⟨noFrame, noFrameMem, noResult⟩ := List.mem_map.mp (postResults ▸ noSample)
    obtain ⟨zipMid, zipLast, rfl⟩ := List.append_of_mem noFrameMem
    obtain ⟨reaches, policy⟩ := freezeFramePolicy_of_inner_result
      (atFrame zipPre newFrame.1 newFrame.2 _ zipped) (by simp [newResult])
    rw [newResult] at policy
    have adopted : newFrame.1.adoptsSample = true := by
      simp [FrameInputs.adoptsSample, reaches, (freezeFramePolicy_eq_newSample _ _).mp policy.symm]
    obtain ⟨-, policy⟩ := freezeFramePolicy_of_inner_result
      (atFrame (zipPre ++ newFrame :: zipMid) noFrame.1 noFrame.2 zipLast (by simp [zipped]))
      (by simp [noResult])
    rw [noResult] at policy
    have neverAdopted := ((freezeFramePolicy_eq_noSampleAvailable _ _).mp policy.symm).2
    exact List.any_eq_false.mp neverAdopted newFrame (by simp) adopted

/-- Three healthy frames: the first finds no sample, the second pulls sample `7`, the third
finds none again. -/
def stallSampleStall : List FrameInputs :=
  [healthyFrame none, healthyFrame (some (sampleSeven, ⟨1, 0⟩)), healthyFrame none]

/-- What `stallSampleStall` does from a new experience, every time converting. -/
def stallSampleStallRun : Effect × List EmPollRenderResult :=
  (runFrames (fun time => some time.tvSec) newExperience stallSampleStall).getD
    (⟨newExperience, []⟩, [])

theorem inner_result_follows_freeze_frame_stall_sample_stall :
    newExperience.prevSample = none ∧
      runFrames (fun time => some time.tvSec) newExperience stallSampleStall =
        some stallSampleStallRun ∧
      stallSampleStallRun.2 = [.noSampleAvailable, .newSample, .reusedSample] ∧
      stallSampleStallRun.2.length = stallSampleStall.length ∧
      (∀ pre input result post,
        stallSampleStall.zip stallSampleStallRun.2 = pre ++ (input, result) :: post →
        input.reachesInner = true →
          (result = .newSample ↔ input.pulled.isSome) ∧
          (result = .reusedSample ↔
            input.pulled = none ∧ ∃ earlier ∈ pre, earlier.1.adoptsSample) ∧
          (result = .noSampleAvailable ↔
            input.pulled = none ∧ ∀ earlier ∈ pre, earlier.1.adoptsSample = false)) ∧
      (∀ pre input result post,
        stallSampleStall.zip stallSampleStallRun.2 = pre ++ (input, result) :: post →
        input.reachesInner = false → result ∈ [.errorWaitframe, .shouldNotRender, .errorEgl]) ∧
      (∀ pre post, stallSampleStallRun.2 = pre ++ .newSample :: post →
        .noSampleAvailable ∉ post) :=
  ⟨rfl, rfl, rfl, @inner_result_follows_freeze_frame (fun time => some time.tvSec) newExperience
    stallSampleStall stallSampleStallRun.1 stallSampleStallRun.2 rfl rfl⟩

end EmRemoteExperience

end Client
end ElectricMaple
