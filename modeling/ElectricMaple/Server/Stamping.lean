import ElectricMaple.Server.Pipeline

/-!
# Stamping `DownMessage`s on marker packets

`downMsg_bytes` is one pointer that two threads share with no lock. The render thread
replaces it in `set_down_msg` by an unref, a `NULL` store and a store of the new bytes; the
streaming thread's probes on the `rtppay` src pad take its data on every marker packet, one
probe after the other, and copy it into the packet. Every connect adds one more probe and
none is ever removed. For every reachable pipeline:
- a marker packet that passes the probes while the render thread is outside `set_down_msg`
  carries the bytes the latest completed `set_down_msg` stored, once per connect handled so
  far, whichever frame the packet belongs to;
- a marker packet that reaches the probes while `set_down_msg` is under way is read from a
  freed `GBytes` or from `NULL`;
- a probe that has taken the data when `set_down_msg` unrefs it copies freed bytes.
-/

namespace ElectricMaple
namespace Server

open EmsGstreamerPipeline

/-! ## Packets the probes leave -/

/-- A packet with marker bit `marker` carrying `elements`: with no element it has no header
extension, otherwise a two-byte one with `appbits` 0. -/
def RtpPacket.stamped (marker : Bool) (elements : List (Nat × Bytes)) : RtpPacket :=
  ⟨marker, if elements = [] then none else some ⟨0x1000, elements⟩⟩

@[simp] theorem RtpPacket.stamped_nil (marker : Bool) :
    RtpPacket.stamped marker [] = .ofPayloader marker := rfl

@[simp] theorem RtpPacket.elements_stamped (marker : Bool) (elements : List (Nat × Bytes)) :
    (RtpPacket.stamped marker elements).elements = elements := by
  by_cases empty : elements = [] <;> simp [RtpPacket.stamped, RtpPacket.elements, empty]

@[simp] theorem RtpPacket.marker_stamped (marker : Bool) (elements : List (Nat × Bytes)) :
    (RtpPacket.stamped marker elements).marker = marker := rfl

/-- Each probe appends one element to a stamped packet. -/
theorem addExtensionTwobytesHeader_stamped (marker : Bool) (elements : List (Nat × Bytes))
    (data : Bytes) :
    addExtensionTwobytesHeader (.stamped marker elements) 0 rtpTwobytesHdrExtId data =
      some (.stamped marker (elements ++ [(rtpTwobytesHdrExtId, data)])) := by
  by_cases empty : elements = [] <;> simp [addExtensionTwobytesHeader, RtpPacket.stamped, empty]

/-! ## The streaming thread's steps -/

variable {DownMessage : Type} (encode : DownMessage → Option Bytes)

theorem run_cons_of_step {egp egp₁ : EmsGstreamerPipeline} {event : ServerEvent DownMessage}
    {events : List (ServerEvent DownMessage)} {obs₁ : List ServerObs}
    (stepped : step encode egp event = some (egp₁, obs₁)) :
    run encode egp (event :: events) = (run encode egp₁ events).map fun result =>
      (result.1, obs₁ ++ result.2) := by
  simp [run, stepped]

/-- The streaming thread's events after a probe on a marker packet has read `downMsg_bytes`,
with `left` probes still to call: the probe copies the data when it fits, then the next one
reads. -/
def probeSteps (fits : Bool) : Nat → List (ServerEvent DownMessage)
  | 0 => if fits then [.probeAddExtension] else []
  | left + 1 => (if fits then [.probeAddExtension] else []) ++ .probeGetData :: probeSteps fits left

/-- A packet's way through the `rtppay` src pad with no other event between its steps: the
payloader emits it, and on a marker packet each of the `probes` probes reads `downMsg_bytes`
and copies its data when it fits. -/
def packetPassage (last fits : Bool) (probes : Nat) : List (ServerEvent DownMessage) :=
  .rtpPacket last :: if last ∧ 0 < probes then probeSteps fits (probes - 1) else []

section Steps

variable (egp : EmsGstreamerPipeline) (frame : Nat) {data : Bytes}

/-- The last probe copies the live data it took into the packet as one more element, and
the packet leaves the pad. -/
theorem step_probeAddExtension_last (elements : List (Nat × Bytes)) :
    step encode { egp with padPush := some ⟨frame, .stamped true elements, 0, some (data, true)⟩ }
        .probeAddExtension =
      some ({ egp with padPush := none },
        [.rtpPacket frame (.passed (.stamped true (elements ++ [(rtpTwobytesHdrExtId, data)])))]) := by
  simp [step, ServerEvent.enabled, ServerEvent.defined, react, probeAddExtension,
    webrtcbinSrcpadProbeAddExtension, addExtensionTwobytesHeader_stamped, probeReturned]

/-- A probe with probes after it copies the live data it took into the packet as one more
element, and the packet waits for the next probe. -/
theorem step_probeAddExtension_more (elements : List (Nat × Bytes)) (left : Nat) :
    step encode
        { egp with padPush := some ⟨frame, .stamped true elements, left + 1, some (data, true)⟩ }
        .probeAddExtension =
      some ({ egp with
        padPush := some ⟨frame, .stamped true (elements ++ [(rtpTwobytesHdrExtId, data)]),
          left + 1, none⟩ }, []) := by
  simp [step, ServerEvent.enabled, ServerEvent.defined, react, probeAddExtension,
    webrtcbinSrcpadProbeAddExtension, addExtensionTwobytesHeader_stamped, probeReturned]

variable (slot : egp.downMsgBytes = .live data)
include slot

/-- The next probe on a marker packet takes live data that fits. -/
theorem step_probeGetData_fits (fits : data.length ≤ rtpTwobytesHdrExtMaxSize)
    (packet : RtpPacket) (marker : packet.marker = true) (left : Nat) :
    step encode { egp with padPush := some ⟨frame, packet, left + 1, none⟩ } .probeGetData =
      some ({ egp with padPush := some ⟨frame, packet, left, some (data, true)⟩ }, []) := by
  simp [step, ServerEvent.enabled, ServerEvent.defined, react, callProbe,
    webrtcbinSrcpadProbeGetData, slot, marker, Nat.not_lt.mpr fits]

/-- The last probe on a marker packet returns at once on data too large for an element, and
the packet leaves the pad unchanged. -/
theorem step_probeGetData_oversized_last (oversized : ¬data.length ≤ rtpTwobytesHdrExtMaxSize)
    (packet : RtpPacket) (marker : packet.marker = true) :
    step encode { egp with padPush := some ⟨frame, packet, 1, none⟩ } .probeGetData =
      some ({ egp with padPush := none }, [.rtpPacket frame (.passed packet)]) := by
  simp [step, ServerEvent.enabled, ServerEvent.defined, react, callProbe,
    webrtcbinSrcpadProbeGetData, slot, marker, Nat.lt_of_not_le oversized, probeReturned]

/-- A probe with probes after it returns at once on data too large for an element. -/
theorem step_probeGetData_oversized_more (oversized : ¬data.length ≤ rtpTwobytesHdrExtMaxSize)
    (packet : RtpPacket) (marker : packet.marker = true) (left : Nat) :
    step encode { egp with padPush := some ⟨frame, packet, left + 2, none⟩ } .probeGetData =
      some ({ egp with padPush := some ⟨frame, packet, left + 1, none⟩ }, []) := by
  simp [step, ServerEvent.enabled, ServerEvent.defined, react, callProbe,
    webrtcbinSrcpadProbeGetData, slot, marker, Nat.lt_of_not_le oversized, probeReturned]

/-- Once a probe has taken live data that fits, it and each remaining probe add the data
once, and the packet leaves the pad. -/
theorem run_probeSteps_fits (fits : data.length ≤ rtpTwobytesHdrExtMaxSize) :
    ∀ (left : Nat) (elements : List (Nat × Bytes)),
      run encode { egp with padPush := some ⟨frame, .stamped true elements, left, some (data, true)⟩ }
          (probeSteps true left) =
        some ({ egp with padPush := none }, [.rtpPacket frame (.passed (.stamped true
          (elements ++ List.replicate (left + 1) (rtpTwobytesHdrExtId, data))))])
  | 0, elements => by
      rw [probeSteps, if_pos rfl, run_cons_of_step encode
        (step_probeAddExtension_last encode egp frame elements)]
      simp
  | left + 1, elements => by
      rw [probeSteps, if_pos rfl, List.singleton_append,
        run_cons_of_step encode (step_probeAddExtension_more encode egp frame elements left),
        run_cons_of_step encode (step_probeGetData_fits encode egp frame slot fits _ rfl left),
        run_probeSteps_fits fits left]
      simp [List.replicate_succ]

/-- While a marker packet waits for its next probe and `downMsg_bytes` holds data too large
for an element, each remaining probe reads it and returns, and the packet leaves unchanged. -/
theorem run_probeSteps_oversized (oversized : ¬data.length ≤ rtpTwobytesHdrExtMaxSize)
    (packet : RtpPacket) (marker : packet.marker = true) :
    ∀ left : Nat, run encode { egp with padPush := some ⟨frame, packet, left + 1, none⟩ }
        (probeSteps false (left + 1)) =
      some ({ egp with padPush := none }, [.rtpPacket frame (.passed packet)])
  | 0 => by
      rw [probeSteps, if_neg Bool.false_ne_true, List.nil_append, run_cons_of_step encode
        (step_probeGetData_oversized_last encode egp frame slot oversized packet marker)]
      simp [probeSteps]
  | left + 1 => by
      rw [probeSteps, if_neg Bool.false_ne_true, List.nil_append, run_cons_of_step encode
          (step_probeGetData_oversized_more encode egp frame slot oversized packet marker left),
        run_probeSteps_oversized oversized packet marker left]
      simp

end Steps

section Emission

variable {egp : EmsGstreamerPipeline} (free : egp.padPush = none) (queued : egp.queue ≠ [])
include free queued

/-- The payloader emits a packet that no probe reads `downMsg_bytes` for: it leaves the pad at
once. -/
theorem step_rtpPacket_passes {last : Bool} (passes : ¬(last ∧ 0 < egp.payloadProbes)) :
    step encode egp (.rtpPacket last) =
      some ({ egp with queue := if last then egp.queue.tail else egp.queue },
        [.rtpPacket (egp.queue.headD 0) (.passed (.ofPayloader last))]) := by
  simp only [Bool.not_eq_true, not_and, Nat.not_lt, Nat.le_zero] at passes
  cases last <;> simp_all [step, ServerEvent.enabled, ServerEvent.defined, react, emitRtpPacket,
    probeReturned]

/-- The payloader emits a marker packet and the first probe takes live data that fits. -/
theorem step_rtpPacket_fits {data : Bytes} {left : Nat} (probes : egp.payloadProbes = left + 1)
    (slot : egp.downMsgBytes = .live data) (fits : data.length ≤ rtpTwobytesHdrExtMaxSize) :
    step encode egp (.rtpPacket true) = some ({ egp with
        queue := egp.queue.tail
        padPush := some ⟨egp.queue.headD 0, .stamped true [], left, some (data, true)⟩ }, []) := by
  simp [step, ServerEvent.enabled, ServerEvent.defined, react, emitRtpPacket, callProbe,
    webrtcbinSrcpadProbeGetData, RtpPacket.ofPayloader, free, queued, probes, slot,
    Nat.not_lt.mpr fits]

/-- The payloader emits a marker packet and the first of several probes returns at once on
data too large for an element. -/
theorem step_rtpPacket_oversized {data : Bytes} {left : Nat} (probes : egp.payloadProbes = left + 2)
    (slot : egp.downMsgBytes = .live data) (oversized : ¬data.length ≤ rtpTwobytesHdrExtMaxSize) :
    step encode egp (.rtpPacket true) = some ({ egp with
        queue := egp.queue.tail
        padPush := some ⟨egp.queue.headD 0, .ofPayloader true, left + 1, none⟩ }, []) := by
  simp [step, ServerEvent.enabled, ServerEvent.defined, react, emitRtpPacket, callProbe,
    webrtcbinSrcpadProbeGetData, free, queued, probes, slot, Nat.lt_of_not_le oversized,
    probeReturned]

/-- The payloader emits a marker packet and its only probe returns at once on data too large
for an element: the packet leaves unchanged. -/
theorem step_rtpPacket_oversized_last {data : Bytes} (probes : egp.payloadProbes = 1)
    (slot : egp.downMsgBytes = .live data) (oversized : ¬data.length ≤ rtpTwobytesHdrExtMaxSize) :
    step encode egp (.rtpPacket true) = some ({ egp with queue := egp.queue.tail },
      [.rtpPacket (egp.queue.headD 0) (.passed (.ofPayloader true))]) := by
  simp [step, ServerEvent.enabled, ServerEvent.defined, react, emitRtpPacket, callProbe,
    webrtcbinSrcpadProbeGetData, free, queued, probes, slot, Nat.lt_of_not_le oversized,
    probeReturned]

/-- The payloader emits a marker packet while `downMsg_bytes` is `NULL` or freed: the first
probe reads it and faults. -/
theorem step_rtpPacket_not_live (notLive : ∀ data, egp.downMsgBytes ≠ .live data)
    (probed : 0 < egp.payloadProbes) :
    step encode egp (.rtpPacket true) = some ({ egp with queue := egp.queue.tail },
      [.rtpPacket (egp.queue.headD 0)
        (.fault (if egp.downMsgBytes = .null then .downMsgBytesNull else .downMsgBytesFreed))]) := by
  unfold step react emitRtpPacket callProbe webrtcbinSrcpadProbeGetData
  cases slot : egp.downMsgBytes with
  | live data => exact absurd slot (notLive data)
  | _ => simp [ServerEvent.enabled, ServerEvent.defined, RtpPacket.ofPayloader, free, queued,
      probed, slot]

end Emission

/-- The payloader emits the oldest queued frame's next packet and, with no other event between,
the streaming thread takes it through the probes while `downMsg_bytes` holds live data: it
leaves the pad with one element per probe when it is a marker packet whose data fits, and
unchanged otherwise. -/
theorem run_packetPassage_live {egp : EmsGstreamerPipeline} {data : Bytes}
    (slot : egp.downMsgBytes = .live data) (queued : egp.queue ≠ []) (free : egp.padPush = none)
    (last : Bool) :
    run encode egp (packetPassage last (decide (data.length ≤ rtpTwobytesHdrExtMaxSize))
        egp.payloadProbes) =
      some ({ egp with queue := if last then egp.queue.tail else egp.queue },
        [.rtpPacket (egp.queue.headD 0) (.passed (.stamped last
          (if last ∧ data.length ≤ rtpTwobytesHdrExtMaxSize then
            List.replicate egp.payloadProbes (rtpTwobytesHdrExtId, data) else [])))]) := by
  by_cases probed : last ∧ 0 < egp.payloadProbes
  · obtain ⟨rfl, positive⟩ := probed
    obtain ⟨left, probes⟩ := Nat.exists_eq_add_one.mpr positive
    rw [packetPassage, probes, if_pos ⟨rfl, Nat.succ_pos left⟩, Nat.add_sub_cancel]
    by_cases fits : data.length ≤ rtpTwobytesHdrExtMaxSize
    · rw [decide_eq_true fits, run_cons_of_step encode
          (step_rtpPacket_fits encode free queued probes slot fits),
        run_probeSteps_fits encode { egp with queue := egp.queue.tail } _ slot fits]
      simp [fits, free, probes]
    · rw [decide_eq_false fits]
      cases left with
      | zero =>
          rw [run_cons_of_step encode (step_rtpPacket_oversized_last encode free queued probes slot fits)]
          simp [fits, probeSteps, probes]
      | succ left =>
          rw [run_cons_of_step encode (step_rtpPacket_oversized encode free queued probes slot fits),
            run_probeSteps_oversized encode { egp with queue := egp.queue.tail } _ slot fits _ rfl]
          simp [fits, free, probes]
  · rw [packetPassage, if_neg probed, run_cons_of_step encode
      (step_rtpPacket_passes encode free queued probed)]
    by_cases marker : last = true
    · have none : egp.payloadProbes = 0 := by simpa [marker] using probed
      simp [marker, none]
    · simp [marker]

/-! ## What the render side's calls leave in `downMsg_bytes` -/

/-- What the render side's calls of a run leave: the bytes a `set_down_msg` under way has
encoded, and the bytes the latest completed one stored. -/
def ServerEvent.publish (state : Option Bytes × Option Bytes) :
    ServerEvent DownMessage → Option Bytes × Option Bytes
  | .setDownMsg msg => ((encode msg).or state.1, state.2)
  | .setDownMsgStore => (none, state.1.or state.2)
  | _ => state

/-- The bytes the latest completed `set_down_msg` of a run stored. -/
def latestPublished (events : List (ServerEvent DownMessage)) : Option Bytes :=
  (events.foldl (ServerEvent.publish encode) (none, none)).2

/-- How `downMsg_bytes` stands against the render side's calls: outside `set_down_msg` it
holds the latest stored bytes (`NULL` before any), inside it `NULL` or a freed `GBytes`, and
the data a probe holds as live is what it holds. -/
structure DownMsgShape (egp : EmsGstreamerPipeline) (state : Option Bytes × Option Bytes) :
    Prop where
  pending : egp.downMsgPending = state.1
  idle : state.1 = none → egp.downMsgBytes = (state.2.map GBytesRef.live).getD .null
  swapping : state.1 ≠ none → egp.downMsgBytes = .null ∨ egp.downMsgBytes = .freed
  heldLive : ∀ push data, egp.padPush = some push → push.extensionData = some (data, true) →
    egp.downMsgBytes = .live data

/-- No probe holds data as live while `downMsg_bytes` is not live. -/
theorem DownMsgShape.not_held {egp : EmsGstreamerPipeline} {state : Option Bytes × Option Bytes}
    (shape : DownMsgShape egp state) (notLive : ∀ data, egp.downMsgBytes ≠ .live data) :
    ∀ push data, egp.padPush = some push → push.extensionData ≠ some (data, true) :=
  fun push data pushing holding => notLive data (shape.heldLive push data pushing holding)

/-- What a step of the streaming thread leaves of the render side's state: `downMsg_bytes`
stays `bytes`, the pending bytes stay `encoded`, and a probe holds data as live only when
`bytes` holds it. -/
structure KeepsDownMsg (egp : EmsGstreamerPipeline) (bytes : GBytesRef) (encoded : Option Bytes) :
    Prop where
  slot : egp.downMsgBytes = bytes
  pending : egp.downMsgPending = encoded
  held : ∀ push data, egp.padPush = some push → push.extensionData = some (data, true) →
    bytes = .live data

theorem DownMsgShape.keep {egp egp' : EmsGstreamerPipeline} {state : Option Bytes × Option Bytes}
    (shape : DownMsgShape egp state) (keeps : KeepsDownMsg egp' egp.downMsgBytes egp.downMsgPending) :
    DownMsgShape egp' state :=
  ⟨keeps.pending.trans shape.pending, fun outside => keeps.slot.trans (shape.idle outside),
    fun inside => by rw [keeps.slot]; exact shape.swapping inside,
    fun push data pushing holding => keeps.slot.trans (keeps.held push data pushing holding)⟩

theorem probeReturned_keepsDownMsg (egp : EmsGstreamerPipeline) (push : PadPush) :
    KeepsDownMsg (egp.probeReturned push).1 egp.downMsgBytes egp.downMsgPending := by
  unfold probeReturned
  split <;> exact ⟨rfl, rfl, by rintro _ _ ⟨⟩ ⟨⟩⟩

/-- A probe goes on to copy data only when `downMsg_bytes` holds it live. -/
theorem webrtcbinSrcpadProbeGetData_eq_some {downMsgBytes : GBytesRef} {packet : RtpPacket}
    {data : Bytes} (read : webrtcbinSrcpadProbeGetData downMsgBytes packet = .ok (some data)) :
    downMsgBytes = .live data := by
  unfold webrtcbinSrcpadProbeGetData at read
  cases marker : packet.marker <;> cases downMsgBytes <;> simp_all

/-- A probe reads `downMsg_bytes` and holds its data as live only when it is live. -/
theorem callProbe_keepsDownMsg (egp : EmsGstreamerPipeline) (push : PadPush) :
    KeepsDownMsg (egp.callProbe push).1 egp.downMsgBytes egp.downMsgPending := by
  unfold callProbe
  split
  · exact ⟨rfl, rfl, by rintro _ _ ⟨⟩⟩
  · exact probeReturned_keepsDownMsg egp _
  · rename_i data read
    refine ⟨rfl, rfl, fun push' held pushing holding => ?_⟩
    cases pushing
    cases holding
    exact webrtcbinSrcpadProbeGetData_eq_some read

theorem probeAddExtension_keepsDownMsg (egp : EmsGstreamerPipeline) (push : PadPush)
    (data : Bytes) (live : Bool) :
    KeepsDownMsg (egp.probeAddExtension push data live).1 egp.downMsgBytes egp.downMsgPending := by
  unfold probeAddExtension
  split
  · exact ⟨rfl, rfl, by rintro _ _ ⟨⟩⟩
  · exact probeReturned_keepsDownMsg egp _

/-- Every event keeps the shape of `downMsg_bytes` against the render side's calls. -/
theorem react_downMsgShape {egp : EmsGstreamerPipeline} {state : Option Bytes × Option Bytes}
    {event : ServerEvent DownMessage} (enabled : event.enabled egp)
    (shape : DownMsgShape egp state) :
    DownMsgShape (react encode egp event).1 (event.publish encode state) := by
  have ⟨pending, idle, swapping, heldLive⟩ := shape
  cases event with
  | setDownMsg msg =>
      cases encoded : encode msg with
      | none =>
          simpa [react, setDownMsg, ServerEvent.publish, encoded] using shape
      | some bytes =>
          cases slot : egp.downMsgBytes with
          | null =>
              refine ⟨by simp [react, setDownMsg, ServerEvent.publish, encoded, slot], by
                simp [ServerEvent.publish, encoded], fun _ => .inl (by
                simp [react, setDownMsg, encoded, slot]), fun push data pushing holding => ?_⟩
              simp only [react, setDownMsg, encoded, slot] at pushing
              cases heldLive push data pushing holding ▸ slot
          | _ =>
              refine ⟨by simp [react, setDownMsg, ServerEvent.publish, encoded, slot], by
                simp [ServerEvent.publish, encoded], fun _ => .inr (by
                simp [react, setDownMsg, encoded, slot]), fun push data pushing holding => ?_⟩
              simp only [react, setDownMsg, encoded, slot, Option.map_eq_some'] at pushing
              obtain ⟨push, -, rfl⟩ := pushing
              simp [PadPush.dataFreed] at holding
  | setDownMsgClear =>
      have freed : egp.downMsgBytes = .freed := by simpa [ServerEvent.enabled] using enabled
      have inside : state.1 ≠ none := fun outside => by
        have slot := idle outside
        rw [freed] at slot
        cases published : state.2 <;> simp [published] at slot
      exact ⟨pending, fun outside => absurd outside inside, fun _ => .inl rfl,
        fun push data pushing holding => by
          cases heldLive push data pushing holding ▸ freed⟩
  | setDownMsgStore =>
      simp only [ServerEvent.enabled, Bool.and_eq_true, Option.isSome_iff_exists,
        decide_eq_true_eq] at enabled
      obtain ⟨⟨bytes, stored⟩, null⟩ := enabled
      refine ⟨by simp [react, setDownMsgStore, stored, ServerEvent.publish],
        fun _ => by simp [react, setDownMsgStore, stored, ServerEvent.publish, ← pending],
        fun inside => absurd rfl inside, fun push data pushing holding => ?_⟩
      simp only [react, setDownMsgStore, stored] at pushing
      cases heldLive push data pushing holding ▸ null
  | rtpPacket last =>
      simp only [react, ServerEvent.publish, emitRtpPacket]
      split
      · exact shape.keep (callProbe_keepsDownMsg _ _)
      · exact shape.keep (probeReturned_keepsDownMsg _ _)
  | probeGetData =>
      simp only [react, ServerEvent.publish]
      split
      · exact shape.keep (callProbe_keepsDownMsg egp _)
      · exact shape
  | probeAddExtension =>
      simp only [react, ServerEvent.publish]
      cases egp.padPush with
      | none => exact shape
      | some push =>
          dsimp only
          cases push.extensionData with
          | none => exact shape
          | some entry => exact shape.keep (probeAddExtension_keepsDownMsg egp push _ _)
  | _ => exact ⟨pending, idle, swapping, heldLive⟩

theorem run_downMsgShape_of {events : List (ServerEvent DownMessage)} :
    ∀ {start egp : EmsGstreamerPipeline} {state : Option Bytes × Option Bytes}
      {obs : List ServerObs}, DownMsgShape start state →
      run encode start events = some (egp, obs) →
      DownMsgShape egp (events.foldl (ServerEvent.publish encode) state) := by
  induction events with
  | nil =>
      intro start egp state obs shape ran
      simp only [run_nil, Option.some.injEq, Prod.mk.injEq] at ran
      exact ran.1 ▸ shape
  | cons event events inductionHypothesis =>
      intro start egp state obs shape ran
      obtain ⟨egp₁, obs₁, obs₂, stepped, ran, -⟩ := (run_cons_eq_some encode).mp ran
      obtain ⟨enabled, -, reacted⟩ := (step_eq_some encode).mp stepped
      have kept := react_downMsgShape encode enabled shape
      rw [reacted] at kept
      exact inductionHypothesis kept ran

/-- In every run from the created pipeline, `downMsg_bytes` stands as the render side's calls
of the run leave it. -/
theorem run_downMsgShape {events : List (ServerEvent DownMessage)} {egp : EmsGstreamerPipeline}
    {obs : List ServerObs} (ran : run encode emsGstreamerPipelineCreate events = some (egp, obs)) :
    DownMsgShape egp (events.foldl (ServerEvent.publish encode) (none, none)) :=
  run_downMsgShape_of encode ⟨rfl, fun _ => rfl, fun inside => absurd rfl inside, by
    simp [emsGstreamerPipelineCreate]⟩ ran

@[simp] theorem react_payloadProbes (egp : EmsGstreamerPipeline) (event : ServerEvent DownMessage) :
    (react encode egp event).1.payloadProbes =
      egp.payloadProbes + if event.isConnect then 1 else 0 := by
  by_cases media : event.isMedia
  · rw [react_media_frame encode media]
    cases event <;> simp_all [ServerEvent.isMedia, ServerEvent.isConnect]
  · cases event <;> first | rfl | exact absurd rfl media

/-- After a run, the `rtppay` src pad carries one probe per connect of the run more. -/
theorem run_payloadProbes {events : List (ServerEvent DownMessage)} :
    ∀ {egp egp' : EmsGstreamerPipeline} {obs}, run encode egp events = some (egp', obs) →
      egp'.payloadProbes = egp.payloadProbes + events.countP ServerEvent.isConnect := by
  induction events with
  | nil => simp
  | cons event events inductionHypothesis =>
      intro egp egp' obs ran
      obtain ⟨egp₁, obs₁, obs₂, stepped, ran, -⟩ := (run_cons_eq_some encode).mp ran
      obtain ⟨-, -, reacted⟩ := (step_eq_some encode).mp stepped
      have probes := react_payloadProbes encode egp event
      rw [reacted] at probes
      rw [inductionHypothesis ran, probes, List.countP_cons]
      omega

/-! ## The published bytes -/

/-- A `set_down_msg` whose encoding fails leaves the record as it was. -/
theorem setDownMsg_of_encode_eq_none (egp : EmsGstreamerPipeline) {msg : DownMessage}
    (failed : encode msg = none) : egp.setDownMsg encode msg = egp := by
  simp [EmsGstreamerPipeline.setDownMsg, failed]

/-- A client connects, a frame is pushed before any `set_down_msg`, and the payloader emits
its marker packet: the probe calls `g_bytes_get_data` on `NULL`. -/
theorem markerPacket_before_first_publication_reads_null :
    observe (fun msg : Bytes => some msg) [.wsClientConnected 0 true, .pushFrame, .rtpPacket true] =
      some [.rtpPacket 1 (.fault .downMsgBytesNull)] := by
  decide

/-! ## Marker packets -/

/-- In every reachable pipeline, marker packets carry what `downMsg_bytes` holds when their
probes read it, not the `DownMessage` of their frame. When the render thread is outside
`set_down_msg` and a frame waits in the payloader, the next marker packet, taken through the
probes with no other event between, leaves the pad with the bytes of the latest completed
`set_down_msg` once per connect. When `set_down_msg` is under way, the first probe reads a
freed `GBytes` or `NULL`. When a probe has taken the data, a `set_down_msg` that encodes
frees it before the probe copies it. -/
theorem markerPacket_carries_downMsg_at_read {events : List (ServerEvent DownMessage)}
    {egp : EmsGstreamerPipeline} {obs : List ServerObs}
    (ran : run encode emsGstreamerPipelineCreate events = some (egp, obs))
    (connected : 0 < events.countP ServerEvent.isConnect) :
    (∀ data, egp.downMsgPending = none → latestPublished encode events = some data →
      data.length ≤ rtpTwobytesHdrExtMaxSize → egp.queue ≠ [] → egp.padPush = none →
      run encode egp (packetPassage true true (events.countP ServerEvent.isConnect)) =
        some ({ egp with queue := egp.queue.tail }, [.rtpPacket (egp.queue.headD 0)
          (.passed (.stamped true
            (List.replicate (events.countP ServerEvent.isConnect) (rtpTwobytesHdrExtId, data))))])) ∧
    (egp.downMsgPending ≠ none → egp.queue ≠ [] → egp.padPush = none →
      run encode egp [.rtpPacket true] =
        some ({ egp with queue := egp.queue.tail }, [.rtpPacket (egp.queue.headD 0)
          (.fault (if egp.downMsgBytes = .null then .downMsgBytesNull else .downMsgBytesFreed))])) ∧
    (∀ push data msg bytes, egp.padPush = some push → push.extensionData = some (data, true) →
      egp.downMsgPending = none → encode msg = some bytes →
      run encode egp [.setDownMsg msg, .probeAddExtension] =
        some ({ egp with downMsgPending := some bytes, downMsgBytes := .freed, padPush := none },
          [.rtpPacket push.frame (.fault .extensionDataFreed)])) := by
  have shape := run_downMsgShape encode ran
  have probes : egp.payloadProbes = events.countP ServerEvent.isConnect := by
    simpa [emsGstreamerPipelineCreate] using run_payloadProbes encode ran
  refine ⟨fun data outside published fits queued free => ?_,
    fun inside queued free => ?_, fun push data msg bytes pushing holding outside encoded => ?_⟩
  · have slot : egp.downMsgBytes = .live data := by
      have := shape.idle (shape.pending ▸ outside)
      rwa [show (events.foldl (ServerEvent.publish encode) (none, none)).2 = some data from
        published] at this
    rw [← probes]
    simpa [fits] using run_packetPassage_live encode slot queued free true
  · have notLive : ∀ data, egp.downMsgBytes ≠ .live data := by
      rcases shape.swapping (shape.pending ▸ inside) with slot | slot <;> simp [slot]
    rw [run_cons_of_step encode
      (step_rtpPacket_not_live encode free queued notLive (probes ▸ connected))]
    rfl
  · have slot := shape.heldLive push data pushing holding
    have unreffed : step encode egp (.setDownMsg msg) = some ({ egp with
        downMsgPending := some bytes, downMsgBytes := .freed,
        padPush := some push.dataFreed }, []) := by
      simp [step, ServerEvent.enabled, outside, ServerEvent.defined, react, setDownMsg, encoded,
        slot, pushing]
    rw [run_cons_of_step encode unreffed]
    simp [run, step, ServerEvent.enabled, ServerEvent.defined, react, PadPush.dataFreed, holding,
      probeAddExtension, webrtcbinSrcpadProbeAddExtension]

/-- The render side publishes `[1]` for frame 1 and pushes it, then publishes `[2]` for frame 2
and pushes it, before the payloader emits frame 1's marker packet. -/
def publishedAhead : List (ServerEvent Bytes) :=
  [.wsClientConnected 0 true, .setDownMsg [1], .setDownMsgStore, .pushFrame,
    .setDownMsg [2], .setDownMsgClear, .setDownMsgStore, .pushFrame]

/-- The pipeline after `publishedAhead`: frames 1 and 2 queued, `[2]` published. -/
def publishedAheadState : EmsGstreamerPipeline where
  dataChannel := some 0
  timeoutSrcId := 0
  downMsgBytes := .live [2]
  downMsgPending := none
  webrtcbins := [⟨0, 0, true, none⟩]
  teePads := []
  payloadProbes := 1
  padPush := none
  pendingOffers := [0]
  blockProbes := []
  webrtcbinRefs := []
  channels := [.connecting]
  sources := []
  nextSourceId := 1
  queue := [1, 2]
  framesPushed := 2

/-- Frame 1's marker packet leaves the pad with frame 2's `[2]`. -/
theorem markerPacket_carries_downMsg_at_read_published_ahead :
    run (fun msg : Bytes => some msg) emsGstreamerPipelineCreate publishedAhead =
        some (publishedAheadState, []) ∧
      0 < publishedAhead.countP ServerEvent.isConnect ∧
      run (fun msg : Bytes => some msg) publishedAheadState (packetPassage true true 1) =
        some ({ publishedAheadState with queue := [2] },
          [.rtpPacket 1 (.passed (.stamped true [(rtpTwobytesHdrExtId, [2])]))]) :=
  have ran : run (fun msg : Bytes => some msg) emsGstreamerPipelineCreate publishedAhead =
      some (publishedAheadState, []) := by decide
  have connected : 0 < publishedAhead.countP ServerEvent.isConnect := by decide
  ⟨ran, connected, (@markerPacket_carries_downMsg_at_read Bytes (fun msg => some msg)
    publishedAhead publishedAheadState [] ran connected).1 [2] rfl rfl (by decide) (by decide)
    rfl⟩

/-- Frame 1's marker packet reaches the probe after `set_down_msg([2])` has unreffed `[1]`
and before it stores `[2]`: the probe reads the freed `GBytes`. -/
example :
    observe (fun msg : Bytes => some msg)
      [.wsClientConnected 0 true, .setDownMsg [1], .setDownMsgStore, .pushFrame, .setDownMsg [2],
        .rtpPacket true] =
      some [.rtpPacket 1 (.fault .downMsgBytesFreed)] := by
  decide

/-- The probe takes `[1]` from frame 1's marker packet, then `set_down_msg([2])` unrefs it
before the probe copies it. -/
example :
    observe (fun msg : Bytes => some msg)
      [.wsClientConnected 0 true, .setDownMsg [1], .setDownMsgStore, .pushFrame, .rtpPacket true,
        .setDownMsg [2], .probeAddExtension] =
      some [.rtpPacket 1 (.fault .extensionDataFreed)] := by
  decide

/-- In every reachable pipeline where a frame waits in the payloader and no packet is on the
pad, the payloader's next packet, taken through the probes with no other event between, leaves
the pad and is never dropped. While `downMsg_bytes` holds published bytes, a marker packet
whose bytes fit gains one two-byte element `RTP_TWOBYTES_HDR_EXT_ID` per connect handled so
far, whatever disconnects followed, and every other packet gains none; before the first
connect no probe reads `downMsg_bytes` and every packet leaves as the payloader made it. -/
theorem rtpPacket_stamped_once_per_connect {events : List (ServerEvent DownMessage)}
    {egp : EmsGstreamerPipeline} {obs : List ServerObs}
    (ran : run encode emsGstreamerPipelineCreate events = some (egp, obs))
    (queued : egp.queue ≠ []) (free : egp.padPush = none) (last : Bool) :
    (∀ data, egp.downMsgBytes = .live data →
      run encode egp (packetPassage last (decide (data.length ≤ rtpTwobytesHdrExtMaxSize))
          (events.countP ServerEvent.isConnect)) =
        some ({ egp with queue := if last then egp.queue.tail else egp.queue },
          [.rtpPacket (egp.queue.headD 0) (.passed (.stamped last
            (if last ∧ data.length ≤ rtpTwobytesHdrExtMaxSize then
              List.replicate (events.countP ServerEvent.isConnect) (rtpTwobytesHdrExtId, data)
            else [])))])) ∧
    (events.countP ServerEvent.isConnect = 0 →
      run encode egp [.rtpPacket last] =
        some ({ egp with queue := if last then egp.queue.tail else egp.queue },
          [.rtpPacket (egp.queue.headD 0) (.passed (.stamped last []))])) := by
  have probes : egp.payloadProbes = events.countP ServerEvent.isConnect := by
    simpa [emsGstreamerPipelineCreate] using run_payloadProbes encode ran
  refine ⟨fun data published => ?_, fun unconnected => ?_⟩
  · rw [← probes]
    exact run_packetPassage_live encode published queued free last
  · rw [run_cons_of_step encode (step_rtpPacket_passes encode free queued
      (by simp [probes, unconnected]))]
    rfl

/-- Two clients connect, `[7]` is published and frame 1 pushed. -/
def twoClientsPublished : List (ServerEvent Bytes) :=
  [.wsClientConnected 0 true, .wsClientConnected 1 true, .setDownMsg [7], .setDownMsgStore,
    .pushFrame]

/-- The pipeline after `twoClientsPublished`. -/
def twoClientsPublishedState : EmsGstreamerPipeline where
  dataChannel := some 1
  timeoutSrcId := 0
  downMsgBytes := .live [7]
  downMsgPending := none
  webrtcbins := [⟨0, 0, true, none⟩, ⟨1, 1, true, none⟩]
  teePads := []
  payloadProbes := 2
  padPush := none
  pendingOffers := [0, 1]
  blockProbes := []
  webrtcbinRefs := []
  channels := [.connecting, .connecting]
  sources := []
  nextSourceId := 1
  queue := [1]
  framesPushed := 1

/-- With two clients connected, frame 1's marker packet leaves with two copies of `[7]`. -/
theorem rtpPacket_stamped_once_per_connect_two_clients :
    run (fun msg : Bytes => some msg) emsGstreamerPipelineCreate twoClientsPublished =
        some (twoClientsPublishedState, []) ∧
      twoClientsPublishedState.downMsgBytes = .live [7] ∧ twoClientsPublishedState.queue ≠ [] ∧
      twoClientsPublishedState.padPush = none ∧
      run (fun msg : Bytes => some msg) twoClientsPublishedState
          (packetPassage true (decide ([7].length ≤ rtpTwobytesHdrExtMaxSize))
            (twoClientsPublished.countP ServerEvent.isConnect)) =
        some ({ twoClientsPublishedState with queue := [] },
          [.rtpPacket 1 (.passed (.stamped true
            [(rtpTwobytesHdrExtId, [7]), (rtpTwobytesHdrExtId, [7])]))]) :=
  have ran : run (fun msg : Bytes => some msg) emsGstreamerPipelineCreate twoClientsPublished =
      some (twoClientsPublishedState, []) := by decide
  have queued : twoClientsPublishedState.queue ≠ [] := by decide
  ⟨ran, rfl, queued, rfl,
    (@rtpPacket_stamped_once_per_connect Bytes (fun msg => some msg) twoClientsPublished
      twoClientsPublishedState [] ran queued rfl true).1 [7] rfl⟩

end Server
end ElectricMaple
