import ElectricMaple.Server.Pipeline

/-!
# The data-channel slots

`data_channel` and `timeout_src_id` are single fields of the pipeline record: every connect
overwrites the first, every `on-open` the second, and every `on-close` clears both, whichever
channel closed. While clients are served one at a time, the newest channel is the only one
not closed, and the slots then follow that channel's own lifecycle.
-/

namespace ElectricMaple
namespace Server

open EmsGstreamerPipeline

variable {DownMessage : Type} (encode : DownMessage → Option Bytes)

/-! ## The channel list under events -/

/-- A connect whose `create-data-channel` returned a channel. -/
def ServerEvent.makesChannel : ServerEvent DownMessage → Bool
  | .wsClientConnected _ channelCreated => channelCreated
  | _ => false

theorem react_channels (egp : EmsGstreamerPipeline) (event : ServerEvent DownMessage) :
    (react encode egp event).1.channels =
      match event with
      | .wsClientConnected _ channelCreated =>
          if channelCreated then egp.channels ++ [.connecting] else egp.channels
      | .channelOpen channel => egp.channels.set channel .opened
      | .channelClose channel => egp.channels.set channel .closed
      | _ => egp.channels := by
  by_cases media : event.isMedia
  · rw [react_media_frame encode media]
    cases event <;> first | rfl | cases media
  · cases event <;> first | rfl | exact absurd rfl media

/-- After a run, the channel list has one entry more per channel the run made. -/
theorem run_channels_length {events : List (ServerEvent DownMessage)}
    {egp egp' : EmsGstreamerPipeline} {obs : List ServerObs}
    (ran : run encode egp events = some (egp', obs)) :
    egp'.channels.length = egp.channels.length + events.countP ServerEvent.makesChannel := by
  induction events generalizing egp obs with
  | nil => simp_all
  | cons event events inductionHypothesis =>
      obtain ⟨egp₁, obs₁, obs₂, stepped, ran, -⟩ := (run_cons_eq_some encode).mp ran
      obtain ⟨-, -, reacted⟩ := (step_eq_some encode).mp stepped
      have grown : egp₁.channels.length =
          egp.channels.length + if event.makesChannel then 1 else 0 := by
        rw [← congrArg (·.1.channels.length) reacted, react_channels]
        cases event <;> simp [ServerEvent.makesChannel]
        split <;> simp
      rw [inductionHypothesis ran, grown, List.countP_cons]
      omega

/-- A closed channel stays closed. -/
theorem react_channel_closed {egp : EmsGstreamerPipeline} {event : ServerEvent DownMessage}
    {channel : Nat} (enabled : event.enabled egp) (closed : egp.channels[channel]? = some .closed) :
    (react encode egp event).1.channels[channel]? = some .closed := by
  rw [react_channels]
  cases event with
  | wsClientConnected _ channelCreated =>
      cases channelCreated
      · exact closed
      · exact List.getElem?_append_left (List.getElem?_eq_some_iff.mp closed).1 ▸ closed
  | channelOpen other =>
      have different : other ≠ channel := by
        rintro rfl
        simp [ServerEvent.enabled, closed] at enabled
      simpa [List.getElem?_set_ne different] using closed
  | channelClose other =>
      have different : other ≠ channel := by
        rintro rfl
        simp [ServerEvent.enabled, closed] at enabled
      simpa [List.getElem?_set_ne different] using closed
  | _ => exact closed

/-- A channel whose `on-close` a run delivered is closed at its end. -/
theorem run_channelClose_closed {events : List (ServerEvent DownMessage)}
    {egp egp' : EmsGstreamerPipeline} {obs : List ServerObs} {channel : Nat}
    (ran : run encode egp events = some (egp', obs)) (closing : .channelClose channel ∈ events) :
    egp'.channels[channel]? = some .closed := by
  obtain ⟨pre, post, rfl⟩ := List.append_of_mem closing
  obtain ⟨egp₁, obsPre, obsRest, -, ranRest, -⟩ := (run_append_eq_some encode).mp ran
  obtain ⟨egp₂, obsClose, obsPost, stepped, ranPost, -⟩ := (run_cons_eq_some encode).mp ranRest
  obtain ⟨enabled, -, reacted⟩ := (step_eq_some encode).mp stepped
  have bound : channel < egp₁.channels.length := by
    simp only [ServerEvent.enabled, Bool.or_eq_true, decide_eq_true_eq] at enabled
    rcases enabled with found | found <;> exact (List.getElem?_eq_some_iff.mp found).1
  have closedNow : egp₂.channels[channel]? = some .closed := by
    rw [← congrArg (·.1.channels) reacted, react_channels]
    exact List.getElem?_set_self bound
  exact run_preserves encode (fun egp => egp.channels[channel]? = some .closed)
    (fun _ _ _ enabled _ closed => react_channel_closed encode enabled closed) closedNow ranPost

/-! ## The slots while clients are served one at a time -/

/-- Clients are served one at a time: when a client connects, every data channel made
before has received its `on-close`. -/
def ChannelsSequential (events : List (ServerEvent DownMessage)) : Prop :=
  ∀ pre clientId channelCreated post,
    events = pre ++ .wsClientConnected clientId channelCreated :: post →
    ∀ channel < pre.countP ServerEvent.makesChannel, .channelClose channel ∈ pre

/-- An `on-close` of the channel of index `channel`. -/
def ServerEvent.closes (channel : Nat) : ServerEvent DownMessage → Bool
  | .channelClose closed => closed == channel
  | _ => false

theorem ServerEvent.closes_iff {channel : Nat} {event : ServerEvent DownMessage} :
    event.closes channel ↔ event = .channelClose channel := by
  cases event <;> simp [ServerEvent.closes]

/-- `ChannelsSequential`, checked position by position. -/
def channelsClosedAtConnects (events : List (ServerEvent DownMessage)) : Bool :=
  (List.range events.length).all fun index =>
    !(events[index]?.any ServerEvent.isConnect) ||
      (List.range ((events.take index).countP ServerEvent.makesChannel)).all fun channel =>
        (events.take index).any (ServerEvent.closes channel)

theorem channelsSequential_of_channelsClosedAtConnects {events : List (ServerEvent DownMessage)}
    (check : channelsClosedAtConnects events) : ChannelsSequential events := by
  intro pre clientId channelCreated post split channel bound
  have taken : events.take pre.length = pre := by simp [split]
  have found : events[pre.length]? = some (.wsClientConnected clientId channelCreated) := by
    rw [split, List.getElem?_append_right (Nat.le_refl _), Nat.sub_self, List.getElem?_cons_zero]
  simp only [channelsClosedAtConnects, List.all_eq_true, List.mem_range, Bool.or_eq_true,
    Bool.not_eq_true', List.any_eq_true] at check
  rcases check pre.length (by simp [split]) with unconnected | closing
  · simp [found, ServerEvent.isConnect] at unconnected
  · obtain ⟨event, mem, closes⟩ := closing channel (by rwa [taken])
    rwa [taken, ServerEvent.closes_iff.mp closes] at mem

/-- Every channel but the newest is closed. While the newest connects, `data_channel`
holds it and no source is attached; once it is open, `data_channel` holds it and exactly its
own source is attached, with its id in `timeout_src_id`; when all are closed no source is
attached. -/
def ChannelSlots (egp : EmsGstreamerPipeline) : Prop :=
  0 < egp.nextSourceId ∧ ∃ closedCount,
    (egp.channels = List.replicate closedCount .closed ∧ egp.sources = [] ∧
      egp.timeoutSrcId = 0) ∨
    (egp.channels = List.replicate closedCount .closed ++ [.connecting] ∧
      egp.dataChannel = some closedCount ∧ egp.sources = [] ∧ egp.timeoutSrcId = 0) ∨
    (egp.channels = List.replicate closedCount .closed ++ [.opened] ∧
      egp.dataChannel = some closedCount ∧ egp.sources = [⟨egp.timeoutSrcId, closedCount⟩] ∧
      egp.timeoutSrcId ≠ 0)

theorem getElem?_replicate_closed {closedCount channel : Nat} {state : DataChannelState}
    (found : (List.replicate closedCount DataChannelState.closed)[channel]? = some state) :
    state = .closed :=
  List.eq_of_mem_replicate (List.getElem?_mem found)

theorem getElem?_replicate_closed_append {closedCount channel : Nat}
    {newest state : DataChannelState}
    (found : (List.replicate closedCount DataChannelState.closed ++ [newest])[channel]? = some state)
    (notClosed : state ≠ .closed) : channel = closedCount ∧ state = newest := by
  rcases Nat.lt_or_ge channel closedCount with below | atLeast
  · rw [List.getElem?_append_left (by simpa using below)] at found
    exact (notClosed (getElem?_replicate_closed found)).elim
  · rw [List.getElem?_append_right (by simpa using atLeast), List.length_replicate] at found
    obtain ⟨inside, value⟩ := List.getElem?_eq_some_iff.mp found
    rw [List.length_singleton] at inside
    exact ⟨by omega, by rw [← value, List.getElem_singleton]⟩

theorem set_replicate_append (closedCount : Nat) (newest state : DataChannelState) :
    (List.replicate closedCount DataChannelState.closed ++ [newest]).set closedCount state =
      List.replicate closedCount .closed ++ [state] := by
  simp [List.set_append_right]

theorem react_channelSlots {egp : EmsGstreamerPipeline} {event : ServerEvent DownMessage}
    (enabled : event.enabled egp)
    (quiet : event.isConnect → ∀ state ∈ egp.channels, state = .closed)
    (slots : ChannelSlots egp) : ChannelSlots (react encode egp event).1 := by
  obtain ⟨positive, closedCount, phase⟩ := slots
  by_cases media : event.isMedia
  · rw [react_media_frame encode media]
    exact ⟨positive, closedCount, phase⟩
  cases event with
  | wsClientConnected clientId channelCreated =>
      obtain ⟨shape, noSources, noTimer⟩ :
          egp.channels = List.replicate closedCount .closed ∧ egp.sources = [] ∧
            egp.timeoutSrcId = 0 := by
        rcases phase with idle | ⟨shape, -⟩ | ⟨shape, -⟩
        · exact idle
        · cases quiet rfl .connecting (by simp [shape])
        · cases quiet rfl .opened (by simp [shape])
      refine ⟨positive, closedCount, ?_⟩
      cases channelCreated
      · exact .inl ⟨shape, noSources, noTimer⟩
      · exact .inr (.inl ⟨by simp [react, webrtcClientConnectedCb, addPayloadPadProbe, shape],
          by simp [react, webrtcClientConnectedCb, addPayloadPadProbe, shape], noSources, noTimer⟩)
  | channelOpen channel =>
      simp only [ServerEvent.enabled, decide_eq_true_eq] at enabled
      rcases phase with ⟨shape, -⟩ | ⟨shape, current, noSources, -⟩ | ⟨shape, -⟩
      · cases getElem?_replicate_closed (shape ▸ enabled)
      · obtain ⟨rfl, -⟩ := getElem?_replicate_closed_append (shape ▸ enabled) (by decide)
        refine ⟨Nat.succ_pos _, channel, .inr (.inr ⟨?_, current, ?_, positive.ne'⟩)⟩
        · simp [react, dataChannelOpenCb, shape, set_replicate_append]
        · simp [react, dataChannelOpenCb, noSources]
      · cases (getElem?_replicate_closed_append (shape ▸ enabled) (by decide)).2
  | channelClose channel =>
      simp only [ServerEvent.enabled, Bool.or_eq_true, decide_eq_true_eq] at enabled
      have newest : ∀ {closedCount : Nat} {last : DataChannelState},
          egp.channels = List.replicate closedCount .closed ++ [last] →
          channel = closedCount := fun shape => by
        rcases enabled with found | found <;>
          exact (getElem?_replicate_closed_append (shape ▸ found) (by decide)).1
      refine ⟨positive, closedCount + 1, .inl ?_⟩
      rcases phase with ⟨shape, -⟩ | ⟨shape, -, noSources, noTimer⟩ |
          ⟨shape, -, oneSource, timer⟩
      · rcases enabled with found | found <;> cases getElem?_replicate_closed (shape ▸ found)
      · obtain rfl := newest shape
        simp [react, dataChannelCloseCb, shape, set_replicate_append, List.replicate_succ',
          noSources, noTimer]
      · obtain rfl := newest shape
        simp [react, dataChannelCloseCb, shape, set_replicate_append, List.replicate_succ',
          oneSource, timer]
  | _ => first | exact absurd rfl media | exact ⟨positive, closedCount, phase⟩

/-- In a run from the created pipeline that serves one client at a time, the slots follow
the newest channel. -/
theorem run_channelSlots {events : List (ServerEvent DownMessage)} {egp : EmsGstreamerPipeline}
    {obs : List ServerObs} (sequential : ChannelsSequential events)
    (ran : run encode emsGstreamerPipelineCreate events = some (egp, obs)) : ChannelSlots egp := by
  induction events using List.reverseRecOn generalizing egp obs with
  | nil =>
      simp only [run_nil, Option.some.injEq, Prod.mk.injEq] at ran
      rw [← ran.1]
      exact ⟨Nat.one_pos, 0, .inl ⟨rfl, rfl, rfl⟩⟩
  | append_singleton events event inductionHypothesis =>
      obtain ⟨before, obsBefore, obsLast, ranBefore, ranLast, -⟩ :=
        (run_append_eq_some encode).mp ran
      obtain ⟨after, obsStep, obsNil, stepped, ranNil, -⟩ := (run_cons_eq_some encode).mp ranLast
      simp only [run_nil, Option.some.injEq, Prod.mk.injEq] at ranNil
      obtain ⟨enabled, -, reacted⟩ := (step_eq_some encode).mp stepped
      have slots := inductionHypothesis (fun pre clientId channelCreated post split =>
        sequential pre clientId channelCreated (post ++ [event]) (by simp [split])) ranBefore
      have quiet : event.isConnect → ∀ state ∈ before.channels, state = .closed := by
        intro connect state mem
        obtain ⟨clientId, channelCreated, rfl⟩ :
            ∃ clientId channelCreated, event = .wsClientConnected clientId channelCreated := by
          cases event <;> simp_all [ServerEvent.isConnect]
        obtain ⟨channel, found⟩ := List.mem_iff_getElem?.mp mem
        have bound := (List.getElem?_eq_some_iff.mp found).1
        rw [run_channels_length encode ranBefore] at bound
        have closed := run_channelClose_closed encode ranBefore
          (sequential events clientId channelCreated [] rfl channel
            (by simpa [emsGstreamerPipelineCreate] using bound))
        rw [found] at closed
        exact Option.some.inj closed
      have slotsAfter := react_channelSlots encode enabled quiet slots
      rwa [reacted, ranNil.1] at slotsAfter

/-! ## Each channel's timer -/

/-- A timer sends only on the channel of an attached source. -/
theorem react_timeoutFires_sends (egp : EmsGstreamerPipeline) (id : Nat) :
    ∀ sent ∈ (react encode egp (.timeoutFires id)).2, ∃ source ∈ egp.sources,
      sent = .sendString source.channel ∨ sent = .sendData source.channel := by
  intro sent mem
  cases found : egp.sources.find? (·.id == id) with
  | none => simp [react, found] at mem
  | some source =>
      simp only [react, found, Option.map_some', Option.getD_some, datachannelSendMessage,
        List.mem_cons, List.mem_singleton, List.not_mem_nil, or_false] at mem
      exact ⟨source, List.mem_of_find?_eq_some found, mem⟩

/-- Every attached source sends on an open channel. -/
theorem ChannelSlots.source_opened {egp : EmsGstreamerPipeline} (slots : ChannelSlots egp) :
    ∀ source ∈ egp.sources, egp.channels[source.channel]? = some .opened := by
  obtain ⟨-, closedCount, ⟨-, noSources, -⟩ | ⟨-, -, noSources, -⟩ | ⟨shape, -, oneSource, -⟩⟩ :=
    slots
  · simp [noSources]
  · simp [noSources]
  · intro source mem
    rw [oneSource, List.mem_singleton] at mem
    simp [mem, shape]

/-- An open channel has exactly its own source attached. -/
theorem ChannelSlots.opened_source {egp : EmsGstreamerPipeline} (slots : ChannelSlots egp)
    {channel : Nat} (opened : egp.channels[channel]? = some .opened) :
    egp.sources = [⟨egp.timeoutSrcId, channel⟩] := by
  obtain ⟨-, closedCount, ⟨shape, -⟩ | ⟨shape, -⟩ | ⟨shape, -, oneSource, -⟩⟩ := slots
  · cases getElem?_replicate_closed (shape ▸ opened)
  · cases (getElem?_replicate_closed_append (shape ▸ opened) (by decide)).2
  · obtain ⟨rfl, -⟩ := getElem?_replicate_closed_append (shape ▸ opened) (by decide)
    exact oneSource

/-- The `on-close` of a channel removes exactly the sources sending on it and drops the
reference to it only. -/
theorem ChannelSlots.channelClose {egp : EmsGstreamerPipeline} (slots : ChannelSlots egp)
    {channel : Nat} (enabled : (ServerEvent.channelClose channel : ServerEvent DownMessage).enabled egp) :
    (react encode egp (.channelClose channel)).1.sources =
        egp.sources.filter (·.channel ≠ channel) ∧
      ∀ dropped, .channelUnref dropped ∈ (react encode egp (.channelClose channel)).2 →
        dropped = channel := by
  simp only [ServerEvent.enabled, Bool.or_eq_true, decide_eq_true_eq] at enabled
  obtain ⟨-, closedCount, ⟨shape, -⟩ | ⟨shape, current, noSources, noTimer⟩ |
      ⟨shape, current, oneSource, timer⟩⟩ := slots
  · rcases enabled with found | found <;> cases getElem?_replicate_closed (shape ▸ found)
  · have newest : channel = closedCount := by
      rcases enabled with found | found <;>
        exact (getElem?_replicate_closed_append (shape ▸ found) (by decide)).1
    subst newest
    simp [react, dataChannelCloseCb, noSources, noTimer, current]
  · have newest : channel = closedCount := by
      rcases enabled with found | found <;>
        exact (getElem?_replicate_closed_append (shape ▸ found) (by decide)).1
    subst newest
    simp [react, dataChannelCloseCb, oneSource, timer, current]

/-- While clients are served one at a time, a timer sends only on an open channel, an open
channel has exactly its own timer, and an `on-close` removes exactly the closing channel's
timer and drops the reference to that channel only. -/
theorem channel_timer_follows_its_channel {events : List (ServerEvent DownMessage)}
    {egp : EmsGstreamerPipeline} {obs : List ServerObs} (sequential : ChannelsSequential events)
    (ran : run encode emsGstreamerPipelineCreate events = some (egp, obs)) :
    (∀ id, ∀ sent ∈ (react encode egp (.timeoutFires id)).2, ∃ channel,
      egp.channels[channel]? = some .opened ∧
        (sent = .sendString channel ∨ sent = .sendData channel)) ∧
    (∀ channel, egp.channels[channel]? = some .opened →
      egp.sources = [⟨egp.timeoutSrcId, channel⟩]) ∧
    (∀ channel, (ServerEvent.channelClose channel : ServerEvent DownMessage).enabled egp →
      (react encode egp (.channelClose channel)).1.sources =
          egp.sources.filter (·.channel ≠ channel) ∧
        ∀ dropped, .channelUnref dropped ∈ (react encode egp (.channelClose channel)).2 →
          dropped = channel) := by
  have slots := run_channelSlots encode sequential ran
  refine ⟨fun id sent mem => ?_, fun _ => slots.opened_source,
    fun _ => slots.channelClose encode⟩
  obtain ⟨source, attached, sends⟩ := react_timeoutFires_sends encode egp id sent mem
  exact ⟨source.channel, slots.source_opened source attached, sends⟩

/-- Client `0` connects, its channel opens and closes; then client `1` connects and its
channel opens. -/
def servedInTurn : List (ServerEvent Bytes) :=
  [.wsClientConnected 0 true, .channelOpen 0, .channelClose 0, .wsClientConnected 1 true,
    .channelOpen 1]

/-- The pipeline after `servedInTurn`: channel `1` open with timer `2`. -/
def servedInTurnState : EmsGstreamerPipeline where
  dataChannel := some 1
  timeoutSrcId := 2
  downMsgBytes := .null
  downMsgPending := none
  webrtcbins := [⟨0, 0, true, none⟩, ⟨1, 1, true, none⟩]
  teePads := []
  payloadProbes := 2
  padPush := none
  pendingOffers := [0, 1]
  blockProbes := []
  webrtcbinRefs := []
  channels := [.closed, .opened]
  sources := [⟨2, 1⟩]
  nextSourceId := 3
  queue := []
  framesPushed := 0

theorem channel_timer_follows_its_channel_served_in_turn :
    ChannelsSequential servedInTurn ∧
      run (fun msg : Bytes => some msg) emsGstreamerPipelineCreate servedInTurn =
        some (servedInTurnState, [.sourceRemoved 1, .channelUnref 0]) ∧
      (∀ id, ∀ sent ∈ (react (fun msg : Bytes => some msg) servedInTurnState (.timeoutFires id)).2,
        ∃ channel, servedInTurnState.channels[channel]? = some .opened ∧
          (sent = .sendString channel ∨ sent = .sendData channel)) ∧
      (∀ channel, servedInTurnState.channels[channel]? = some .opened →
        servedInTurnState.sources = [⟨servedInTurnState.timeoutSrcId, channel⟩]) ∧
      (∀ channel, (ServerEvent.channelClose channel : ServerEvent Bytes).enabled servedInTurnState →
        (react (fun msg : Bytes => some msg) servedInTurnState (.channelClose channel)).1.sources =
            servedInTurnState.sources.filter (·.channel ≠ channel) ∧
          ∀ dropped, .channelUnref dropped ∈
              (react (fun msg : Bytes => some msg) servedInTurnState (.channelClose channel)).2 →
            dropped = channel) :=
  have sequential : ChannelsSequential servedInTurn :=
    channelsSequential_of_channelsClosedAtConnects (by decide)
  have ran : run (fun msg : Bytes => some msg) emsGstreamerPipelineCreate servedInTurn =
      some (servedInTurnState, [.sourceRemoved 1, .channelUnref 0]) := by decide
  ⟨sequential, ran,
    @channel_timer_follows_its_channel Bytes (fun msg => some msg) servedInTurn servedInTurnState
      [.sourceRemoved 1, .channelUnref 0] sequential ran⟩

/-- Two clients connect and both channels open; closing the first channel removes the second
channel's timer and drops the second channel's reference, and the first channel's timer,
still attached, sends on the closed channel. -/
theorem closing_first_channel_removes_second_timer :
    (run (fun msg : Bytes => some msg) emsGstreamerPipelineCreate
        [.wsClientConnected 0 true, .wsClientConnected 1 true, .channelOpen 0, .channelOpen 1,
          .channelClose 0, .timeoutFires 1]).map
        (fun result => (result.1.channels, result.1.sources, result.2)) =
      some ([.closed, .opened], [⟨1, 0⟩],
        [.sourceRemoved 2, .channelUnref 1, .sendString 0, .sendData 0]) := by
  decide

end Server
end ElectricMaple
