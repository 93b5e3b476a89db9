import Mathlib.Data.List.Basic

/-!
# The server's pipeline record and its callbacks

A model of `ems_gstreamer_pipeline.c`. The record `struct ems_gstreamer_pipeline` keeps one
data-channel slot, one timeout-source slot and the published `DownMessage` bytes. Next to it
we keep the parts of the GStreamer graph and of the GLib main context that the callbacks
change: the `webrtcbin` elements, the request src pads of the `webrtctee`, the probes on the
`rtppay` src pad, the blocking probes a disconnect installs, the data channels and the
timeout sources. Each signal the code connects to is an event, and `step` runs the callback
the code registers for it.

The render side, which publishes `DownMessage`s and pushes frames into the `appsrc`, and the
payloader, which emits the RTP packets of the queued frames in frame order, are events of
the environment. The protobuf encoder of `DownMessage` is a parameter. `downMsg_bytes` is
shared by the render thread and the streaming thread with no lock, so each access to it is
an event of its own: the three stores of `set_down_msg`, and each probe's
`g_bytes_get_data` and its copy of the data. A connect whose `gst_bin_add` is refused is
undefined behaviour, and `step` has no result for it.
-/

namespace ElectricMaple
namespace Server

/-- The contents of a `GBytes`. -/
abbrev Bytes := List UInt8

/-- `RTP_TWOBYTES_HDR_EXT_ID`. -/
def rtpTwobytesHdrExtId : Nat := 1

/-- `RTP_TWOBYTES_HDR_EXT_MAX_SIZE`. -/
def rtpTwobytesHdrExtMaxSize : Nat := 255

/-! ## RTP packets and the stamping probe -/

/-- The header extension of an RTP packet: its profile bits and its elements, each an element
id with its data. -/
structure RtpExtension where
  bits : Nat
  elements : List (Nat × Bytes)
  deriving DecidableEq, Repr

/-- An RTP packet as `gst_rtp_buffer_map` exposes it to a probe. -/
structure RtpPacket where
  marker : Bool
  extension : Option RtpExtension
  deriving DecidableEq, Repr

/-- A packet as the payloader `rtph264pay` emits it, with no header extension. -/
def RtpPacket.ofPayloader (marker : Bool) : RtpPacket := ⟨marker, none⟩

/-- The header-extension elements a packet carries. -/
def RtpPacket.elements : RtpPacket → List (Nat × Bytes)
  | ⟨_, some extension⟩ => extension.elements
  | ⟨_, none⟩ => []

/-- `gst_rtp_buffer_add_extension_twobytes_header` of the GStreamer RTP library: the two-byte
profile is `0x100 << 4 | appbits`; a packet whose extension has another profile is refused,
otherwise the element is appended. -/
def addExtensionTwobytesHeader (packet : RtpPacket) (appbits id : Nat) (data : Bytes) :
    Option RtpPacket :=
  let bits := 0x1000 + appbits % 16
  match packet.extension with
  | none => some { packet with extension := some ⟨bits, [(id, data)]⟩ }
  | some extension =>
      if extension.bits = bits then
        some { packet with extension := some ⟨bits, extension.elements ++ [(id, data)]⟩ }
      else none

/-- What a `GBytes *` field points to: `NULL`, a live `GBytes` with its data, or a `GBytes`
that `g_bytes_unref` has freed. -/
inductive GBytesRef where
  | null
  | live (data : Bytes)
  | freed
  deriving DecidableEq, Repr

/-- Undefined behaviour inside a probe. -/
inductive ProbeFault where
  /-- `g_bytes_get_data` is called on `downMsg_bytes` while it is `NULL`. -/
  | downMsgBytesNull
  /-- `g_bytes_get_data` is called on `downMsg_bytes` after it was freed. -/
  | downMsgBytesFreed
  /-- `gst_rtp_buffer_add_extension_twobytes_header` copies data whose `GBytes` was freed after
  `g_bytes_get_data` returned it. -/
  | extensionDataFreed
  deriving DecidableEq, Repr

/-- `webrtcbin_srcpad_probe` up to its size check: on a marker packet it calls
`g_bytes_get_data` on `downMsg_bytes`. `some data`: it goes on to add `data`; `none`: it
returns `GST_PAD_PROBE_OK` first, with the packet unchanged. -/
def webrtcbinSrcpadProbeGetData (downMsgBytes : GBytesRef) (packet : RtpPacket) :
    Except ProbeFault (Option Bytes) :=
  if !packet.marker then .ok none
  else match downMsgBytes with
    | .null => .error .downMsgBytesNull
    | .freed => .error .downMsgBytesFreed
    | .live data => .ok (if data.length > rtpTwobytesHdrExtMaxSize then none else some data)

/-- The rest of `webrtcbin_srcpad_probe`: append the data `g_bytes_get_data` returned as one
two-byte header-extension element, which copies it; `live` is whether its `GBytes` is still
live. Every path returns `GST_PAD_PROBE_OK`. -/
def webrtcbinSrcpadProbeAddExtension (packet : RtpPacket) (data : Bytes) (live : Bool) :
    Except ProbeFault RtpPacket :=
  if live then .ok ((addExtensionTwobytesHeader packet 0 rtpTwobytesHdrExtId data).getD packet)
  else .error .extensionDataFreed

/-- What leaves the `rtppay` src pad once its buffer probes have run. -/
inductive PadOutcome where
  | passed (packet : RtpPacket)
  | fault (fault : ProbeFault)
  deriving DecidableEq, Repr

/-- A packet the streaming thread is pushing through the probes on the `rtppay` src pad. -/
structure PadPush where
  /-- The frame whose access unit the packet belongs to. -/
  frame : Nat
  /-- The packet as the probes called so far have left it. -/
  packet : RtpPacket
  /-- The probes not yet called. -/
  probesLeft : Nat
  /-- The data the running probe took from `downMsg_bytes` and copies next, with whether its
  `GBytes` is still live; `none` between probes. -/
  extensionData : Option (Bytes × Bool)
  deriving DecidableEq, Repr

/-- `g_bytes_unref` on `downMsg_bytes` frees the data a running probe took from it. -/
def PadPush.dataFreed (push : PadPush) : PadPush :=
  { push with extensionData := push.extensionData.map fun (data, _) => (data, false) }

/-! ## The pipeline record and the graph around it -/

/-- A `webrtcbin` element made by `webrtc_client_connected_cb`. -/
structure Webrtcbin where
  /-- Its index among the elements made so far. -/
  id : Nat
  /-- The client whose name `webrtcbin_<client_id>` it carries. -/
  clientId : Nat
  /-- Its parent is the pipeline bin. -/
  inPipeline : Bool
  /-- The tee src pad, by index, that its request pad `sink_0` was linked to. -/
  sink0 : Option Nat
  deriving DecidableEq, Repr

/-- The ready state of a `GstWebRTCDataChannel`. -/
inductive DataChannelState where
  | connecting | opened | closed
  deriving DecidableEq, Repr

/-- A GLib timeout source and the data channel its callback sends on. -/
structure TimeoutSource where
  id : Nat
  channel : Nat
  deriving DecidableEq, Repr

/-- `struct ems_gstreamer_pipeline`, with the graph and main-context state its callbacks
change, and where the render thread and the streaming thread are in the code that shares
`downMsg_bytes`. -/
structure EmsGstreamerPipeline where
  /-- `data_channel`, by channel index; `none` is `NULL`. -/
  dataChannel : Option Nat
  /-- `timeout_src_id`; `0` is no source. -/
  timeoutSrcId : Nat
  /-- `downMsg_bytes`. -/
  downMsgBytes : GBytesRef
  /-- The bytes `ems_gstreamer_pipeline_set_down_msg` has encoded and is about to store, while
  the render thread is inside the call past its `pb_encode`; `none` outside it. -/
  downMsgPending : Option Bytes
  /-- Every `webrtcbin` made so far, in order. -/
  webrtcbins : List Webrtcbin
  /-- The request src pads of the `webrtctee`, each by the `webrtcbin` it was requested for. -/
  teePads : List Nat
  /-- How many times `webrtcbin_srcpad_probe` was added to the `rtppay` src pad. -/
  payloadProbes : Nat
  /-- The packet the streaming thread is pushing through those probes. -/
  padPush : Option PadPush
  /-- The `webrtcbin`s whose `create-offer` promise has not replied. -/
  pendingOffers : List Nat
  /-- The blocking probes on tee pads, each with the `webrtcbin` its callback removes. -/
  blockProbes : List (Nat × Nat)
  /-- The references on `webrtcbin`s, by element, that `webrtc_client_disconnected_cb` took
  through `get_webrtcbin_for_client` and nothing has dropped yet. -/
  webrtcbinRefs : List Nat
  /-- Every data channel made so far, by index. -/
  channels : List DataChannelState
  /-- The timeout sources attached to the main context. -/
  sources : List TimeoutSource
  /-- The id the next attached source gets. -/
  nextSourceId : Nat
  /-- Frames pushed into the `appsrc` whose access unit has not left the payloader. -/
  queue : List Nat
  /-- Frames pushed into the `appsrc` so far. -/
  framesPushed : Nat
  deriving DecidableEq, Repr

/-- The record after `ems_gstreamer_pipeline_create` and `ems_gstreamer_pipeline_play`. -/
def emsGstreamerPipelineCreate : EmsGstreamerPipeline where
  dataChannel := none
  timeoutSrcId := 0
  downMsgBytes := .null
  downMsgPending := none
  webrtcbins := []
  teePads := []
  payloadProbes := 0
  padPush := none
  pendingOffers := []
  blockProbes := []
  webrtcbinRefs := []
  channels := []
  sources := []
  nextSourceId := 1
  queue := []
  framesPushed := 0

/-- What the server does that is seen outside its state. -/
inductive ServerObs where
  /-- A packet of frame `frame`'s access unit leaves the `rtppay` src pad. -/
  | rtpPacket (frame : Nat) (outcome : PadOutcome)
  /-- `g_source_remove` of a source id. -/
  | sourceRemoved (id : Nat)
  /-- A reference to a data channel is dropped. -/
  | channelUnref (channel : Nat)
  /-- `send-string` on a data channel. -/
  | sendString (channel : Nat)
  /-- `gst_webrtc_data_channel_send_data` on a data channel. -/
  | sendData (channel : Nat)
  deriving DecidableEq, Repr

/-- `datachannel_send_message`, the timeout callback: two sends on its channel; it returns
`G_SOURCE_CONTINUE`, so the source stays. -/
def datachannelSendMessage (channel : Nat) : List ServerObs :=
  [.sendString channel, .sendData channel]

/-- Change the `webrtcbin` of index `id`. -/
def updateWebrtcbin (webrtcbins : List Webrtcbin) (id : Nat) (f : Webrtcbin → Webrtcbin) :
    List Webrtcbin :=
  webrtcbins.map fun webrtcbin => if webrtcbin.id = id then f webrtcbin else webrtcbin

namespace EmsGstreamerPipeline

variable (egp : EmsGstreamerPipeline)

/-- `get_webrtcbin_for_client`: the element of the bin named `webrtcbin_<client_id>`. -/
def getWebrtcbinForClient (clientId : Nat) : Option Webrtcbin :=
  egp.webrtcbins.find? fun webrtcbin => webrtcbin.clientId == clientId && webrtcbin.inPipeline

/-- `ems_gstreamer_pipeline_add_payload_pad_probe`: the pipeline string always makes the
element `rtppay`, so the probe is added to its src pad. -/
def addPayloadPadProbe : EmsGstreamerPipeline :=
  { egp with payloadProbes := egp.payloadProbes + 1 }

/-- `webrtc_client_connected_cb` when `gst_bin_add` adds `webrtcbin_<client_id>` to the bin:
store the new data channel in the single `data_channel` slot, ask for an offer and add the
payload probe. `channelCreated` is whether `create-data-channel` returned a channel. While the
bin holds an element of that name, `gst_bin_add` refuses the new one and frees it, and the
callback goes on using it: `ServerEvent.defined` leaves that case out of every run. -/
def webrtcClientConnectedCb (clientId : Nat) (channelCreated : Bool) : EmsGstreamerPipeline :=
  addPayloadPadProbe
    { egp with
      webrtcbins := egp.webrtcbins ++ [⟨egp.webrtcbins.length, clientId, true, none⟩]
      dataChannel := if channelCreated then some egp.channels.length else none
      channels := if channelCreated then egp.channels ++ [.connecting] else egp.channels
      pendingOffers := egp.pendingOffers ++ [egp.webrtcbins.length] }

/-- Whether the `webrtcbin` of index `id` has the pipeline as its parent. -/
def hasParent (id : Nat) : Bool :=
  (egp.webrtcbins.find? (·.id == id)).any (·.inPipeline)

/-- `connect_webrtc_to_tee`: return when the element has no parent; otherwise request a new
tee src pad and link it to the element's request pad `sink_0`. -/
def connectWebrtcToTee (id : Nat) : EmsGstreamerPipeline :=
  { egp with
    webrtcbins := if egp.hasParent id then
        updateWebrtcbin egp.webrtcbins id fun b => { b with sink0 := some egp.teePads.length }
      else egp.webrtcbins
    teePads := if egp.hasParent id then egp.teePads ++ [id] else egp.teePads }

/-- `on_offer_created`: set and send the offer, then `connect_webrtc_to_tee`. -/
def onOfferCreated (id : Nat) : EmsGstreamerPipeline :=
  egp.connectWebrtcToTee id

/-- The blocking probe `webrtc_client_disconnected_cb` installs, as its tee pad and element:
when the bin holds `webrtcbin_<client_id>` and the element has its pad `sink_0`, a probe on
the pad linked to `sink_0`. -/
def disconnectProbe (clientId : Nat) : Option (Nat × Nat) :=
  (egp.getWebrtcbinForClient clientId).bind fun webrtcbin =>
    webrtcbin.sink0.map fun pad => (pad, webrtcbin.id)

/-- `webrtc_client_disconnected_cb`: the reference `get_webrtcbin_for_client` returns goes to
the blocking probe as its user data, to be dropped by its destroy notify; when the element has
no `sink_0` no probe is added and nothing drops it. -/
def webrtcClientDisconnectedCb (clientId : Nat) : EmsGstreamerPipeline :=
  { egp with
    webrtcbinRefs := egp.webrtcbinRefs ++ ((egp.getWebrtcbinForClient clientId).map (·.id)).toList
    blockProbes := egp.blockProbes ++ (egp.disconnectProbe clientId).toList }

/-- `remove_webrtcbin_probe_cb`: remove the element from its parent bin. -/
def removeWebrtcbinProbeCb (id : Nat) : EmsGstreamerPipeline :=
  { egp with
    webrtcbins := updateWebrtcbin egp.webrtcbins id fun b => { b with inPipeline := false } }

/-- `data_channel_open_cb`: attach a timeout source sending on this channel and record its
id in the single `timeout_src_id` slot. -/
def dataChannelOpenCb (channel : Nat) : EmsGstreamerPipeline :=
  { egp with
    sources := egp.sources ++ [⟨egp.nextSourceId, channel⟩]
    timeoutSrcId := egp.nextSourceId
    nextSourceId := egp.nextSourceId + 1 }

/-- `data_channel_close_cb`: `g_clear_handle_id` on `timeout_src_id` and `g_clear_object` on
`data_channel`, whichever channel closed. -/
def dataChannelCloseCb : EmsGstreamerPipeline × List ServerObs :=
  ({ egp with
      sources := if egp.timeoutSrcId = 0 then egp.sources
        else egp.sources.filter (·.id ≠ egp.timeoutSrcId)
      timeoutSrcId := 0
      dataChannel := none },
    (if egp.timeoutSrcId = 0 then [] else [.sourceRemoved egp.timeoutSrcId]) ++
      (egp.dataChannel.map ServerObs.channelUnref).toList)

/-! ### `ems_gstreamer_pipeline_set_down_msg`, statement by statement

The render thread runs the call with no lock against the streaming thread: the unref of the
old bytes, the `NULL` store and the store of the new bytes are three steps, and a probe can
run between any two of them. -/

/-- `ems_gstreamer_pipeline_set_down_msg` up to its `g_bytes_unref`: encode the message; on
failure return with `downMsg_bytes` unchanged; on success, when `downMsg_bytes` is not `NULL`,
drop its only reference, which frees the `GBytes` and the data a running probe took from it. -/
def setDownMsg {DownMessage : Type} (encode : DownMessage → Option Bytes)
    (msg : DownMessage) : EmsGstreamerPipeline :=
  match encode msg with
  | none => egp
  | some bytes =>
      match egp.downMsgBytes with
      | .null => { egp with downMsgPending := some bytes }
      | _ => { egp with
          downMsgPending := some bytes
          downMsgBytes := .freed
          padPush := egp.padPush.map PadPush.dataFreed }

/-- `egp->downMsg_bytes = NULL;` after the unref. -/
def setDownMsgClear : EmsGstreamerPipeline :=
  { egp with downMsgBytes := .null }

/-- `egp->downMsg_bytes = g_bytes_new(buf, os.bytes_written);`, and the call returns. -/
def setDownMsgStore : EmsGstreamerPipeline :=
  match egp.downMsgPending with
  | none => egp
  | some bytes => { egp with downMsgBytes := .live bytes, downMsgPending := none }

/-- The render side pushes its next frame into the `appsrc`. -/
def pushFrame : EmsGstreamerPipeline :=
  { egp with
    framesPushed := egp.framesPushed + 1
    queue := egp.queue ++ [egp.framesPushed + 1] }

/-! ### The streaming thread on the `rtppay` src pad -/

/-- The probe that ran on a packet has returned: with no probe left the packet leaves the pad,
otherwise the next probe is called on it. -/
def probeReturned (push : PadPush) : EmsGstreamerPipeline × List ServerObs :=
  if push.probesLeft = 0 then
    ({ egp with padPush := none }, [.rtpPacket push.frame (.passed push.packet)])
  else ({ egp with padPush := some { push with extensionData := none } }, [])

/-- The next probe runs on a packet up to its size check, reading `downMsg_bytes`. -/
def callProbe (push : PadPush) : EmsGstreamerPipeline × List ServerObs :=
  match webrtcbinSrcpadProbeGetData egp.downMsgBytes push.packet with
  | .error fault => ({ egp with padPush := none }, [.rtpPacket push.frame (.fault fault)])
  | .ok none => egp.probeReturned { push with probesLeft := push.probesLeft - 1 }
  | .ok (some data) =>
      ({ egp with
          padPush := some { push with
            probesLeft := push.probesLeft - 1
            extensionData := some (data, true) } }, [])

/-- The payloader emits the next packet of the oldest queued frame, `last` its marker, and the
pad calls its probes: a packet without its marker bit, or a pad with no probe, passes at once,
since no probe reads `downMsg_bytes` for it; a marker packet goes to the first probe. -/
def emitRtpPacket (last : Bool) : EmsGstreamerPipeline × List ServerObs :=
  let popped := { egp with queue := if last then egp.queue.tail else egp.queue }
  let push : PadPush := ⟨egp.queue.headD 0, .ofPayloader last, egp.payloadProbes, none⟩
  if last ∧ 0 < egp.payloadProbes then popped.callProbe push
  else popped.probeReturned { push with probesLeft := 0 }

/-- The running probe adds the data it took to the packet. -/
def probeAddExtension (push : PadPush) (data : Bytes) (live : Bool) :
    EmsGstreamerPipeline × List ServerObs :=
  match webrtcbinSrcpadProbeAddExtension push.packet data live with
  | .error fault => ({ egp with padPush := none }, [.rtpPacket push.frame (.fault fault)])
  | .ok packet => egp.probeReturned { push with packet := packet }

/-! ### What the media path touches -/

theorem setDownMsg_frame {DownMessage : Type} (encode : DownMessage → Option Bytes)
    (msg : DownMessage) :
    egp.setDownMsg encode msg =
      { egp with
        downMsgBytes := (egp.setDownMsg encode msg).downMsgBytes
        downMsgPending := (egp.setDownMsg encode msg).downMsgPending
        padPush := (egp.setDownMsg encode msg).padPush } := by
  unfold setDownMsg
  split
  · rfl
  · split <;> rfl

theorem setDownMsgStore_frame :
    egp.setDownMsgStore =
      { egp with
        downMsgBytes := egp.setDownMsgStore.downMsgBytes
        downMsgPending := egp.setDownMsgStore.downMsgPending } := by
  unfold setDownMsgStore
  split <;> rfl

theorem probeReturned_frame (push : PadPush) :
    (egp.probeReturned push).1 = { egp with padPush := (egp.probeReturned push).1.padPush } := by
  unfold probeReturned
  split <;> rfl

theorem callProbe_frame (push : PadPush) :
    (egp.callProbe push).1 = { egp with padPush := (egp.callProbe push).1.padPush } := by
  unfold callProbe
  split
  · rfl
  · exact probeReturned_frame egp _
  · rfl

theorem emitRtpPacket_frame (last : Bool) :
    (egp.emitRtpPacket last).1 =
      { egp with
        queue := if last then egp.queue.tail else egp.queue
        padPush := (egp.emitRtpPacket last).1.padPush } := by
  unfold emitRtpPacket
  dsimp only
  by_cases fires : last = true ∧ 0 < egp.payloadProbes
  · rw [if_pos fires]
    exact callProbe_frame _ _
  · rw [if_neg fires]
    exact probeReturned_frame _ _

theorem probeAddExtension_frame (push : PadPush) (data : Bytes) (live : Bool) :
    (egp.probeAddExtension push data live).1 =
      { egp with padPush := (egp.probeAddExtension push data live).1.padPush } := by
  unfold probeAddExtension
  split
  · rfl
  · exact probeReturned_frame egp _

end EmsGstreamerPipeline

/-! ## Events and runs -/

/-- The events the server reacts to: signalling and WebRTC signals, probe and timeout
callbacks, the steps of the render side, and the payloader with the steps of the streaming
thread through the probes. -/
inductive ServerEvent (DownMessage : Type) where
  /-- `ws-client-connected`; `create-data-channel` returns a channel when `channelCreated`. -/
  | wsClientConnected (clientId : Nat) (channelCreated : Bool)
  /-- The `create-offer` promise of a `webrtcbin` replies. -/
  | offerCreated (webrtcbin : Nat)
  /-- `sdp-answer`: it sets the remote description of the client's `webrtcbin`. -/
  | sdpAnswer (clientId : Nat)
  /-- `candidate`: it adds an ICE candidate to the client's `webrtcbin`. -/
  | candidate (clientId : Nat)
  /-- `ws-client-disconnected`. -/
  | wsClientDisconnected (clientId : Nat)
  /-- A blocking probe on a tee pad fires; its callback returns `GST_PAD_PROBE_REMOVE`, and
  the destroy notify `gst_object_unref` drops the reference it was given. -/
  | blockProbeFires (pad webrtcbin : Nat)
  /-- `on-open` of a data channel. -/
  | channelOpen (channel : Nat)
  /-- `on-close` of a data channel. -/
  | channelClose (channel : Nat)
  /-- A timeout source's callback runs. -/
  | timeoutFires (source : Nat)
  /-- The render side calls `ems_gstreamer_pipeline_set_down_msg`, up to its unref. -/
  | setDownMsg (msg : DownMessage)
  /-- The render side's `set_down_msg` stores `NULL`. -/
  | setDownMsgClear
  /-- The render side's `set_down_msg` stores the new bytes and returns. -/
  | setDownMsgStore
  /-- The render side pushes a frame into the `appsrc`. -/
  | pushFrame
  /-- The payloader emits the next packet of the oldest queued frame, `last` its marker. -/
  | rtpPacket (last : Bool)
  /-- The next probe reads `downMsg_bytes` for the packet on the pad. -/
  | probeGetData
  /-- The running probe adds the data it read to the packet. -/
  | probeAddExtension
  deriving DecidableEq, Repr

variable {DownMessage : Type} (encode : DownMessage → Option Bytes)

/-- A `ws-client-connected` event. -/
def ServerEvent.isConnect : ServerEvent DownMessage → Bool
  | .wsClientConnected _ _ => true
  | _ => false

/-- Whether the environment can deliver an event: a promise replies once, a blocking probe
fires while installed, a channel opens once and closes once, a source fires while attached,
the render thread runs `set_down_msg`'s statements in order and pushes a frame only outside
it, the payloader emits packets only of queued frames and one at a time, and the streaming
thread goes through the probes in order. -/
def ServerEvent.enabled (egp : EmsGstreamerPipeline) : ServerEvent DownMessage → Bool
  | .offerCreated id => id ∈ egp.pendingOffers
  | .blockProbeFires pad id => (pad, id) ∈ egp.blockProbes
  | .channelOpen channel => egp.channels[channel]? = some .connecting
  | .channelClose channel =>
      egp.channels[channel]? = some .connecting || egp.channels[channel]? = some .opened
  | .timeoutFires id => egp.sources.any (·.id == id)
  | .setDownMsg _ | .pushFrame => egp.downMsgPending.isNone
  | .setDownMsgClear => egp.downMsgBytes = .freed
  | .setDownMsgStore => egp.downMsgPending.isSome && egp.downMsgBytes = .null
  | .rtpPacket _ => !egp.queue.isEmpty && egp.padPush.isNone
  | .probeGetData => egp.padPush.any (·.extensionData.isNone)
  | .probeAddExtension => egp.padPush.any (·.extensionData.isSome)
  | _ => true

/-- Whether the code's reaction to an event is defined: a connect of a client whose
`webrtcbin_<client_id>` the bin still holds has `gst_bin_add` refuse the new element, which
GStreamer then sinks and frees, and the callback goes on to use the freed element. -/
def ServerEvent.defined (egp : EmsGstreamerPipeline) : ServerEvent DownMessage → Bool
  | .wsClientConnected clientId _ => (egp.getWebrtcbinForClient clientId).isNone
  | _ => true

/-- The callback the code runs for an event, with what it observes. -/
def react (egp : EmsGstreamerPipeline) :
    ServerEvent DownMessage → EmsGstreamerPipeline × List ServerObs
  | .wsClientConnected clientId channelCreated =>
      (egp.webrtcClientConnectedCb clientId channelCreated, [])
  | .offerCreated id => ({ egp with pendingOffers := egp.pendingOffers.erase id }.onOfferCreated id, [])
  | .sdpAnswer _ | .candidate _ => (egp, [])
  | .wsClientDisconnected clientId => (egp.webrtcClientDisconnectedCb clientId, [])
  | .blockProbeFires pad id =>
      ({ egp with
          blockProbes := egp.blockProbes.erase (pad, id)
          webrtcbinRefs := egp.webrtcbinRefs.erase id }.removeWebrtcbinProbeCb id, [])
  | .channelOpen channel =>
      ({ egp with channels := egp.channels.set channel .opened }.dataChannelOpenCb channel, [])
  | .channelClose channel => { egp with channels := egp.channels.set channel .closed }.dataChannelCloseCb
  | .timeoutFires id =>
      (egp, ((egp.sources.find? (·.id == id)).map fun source =>
        datachannelSendMessage source.channel).getD [])
  | .setDownMsg msg => (egp.setDownMsg encode msg, [])
  | .setDownMsgClear => (egp.setDownMsgClear, [])
  | .setDownMsgStore => (egp.setDownMsgStore, [])
  | .pushFrame => (egp.pushFrame, [])
  | .rtpPacket last => egp.emitRtpPacket last
  | .probeGetData =>
      match egp.padPush with
      | some push => egp.callProbe push
      | none => (egp, [])
  | .probeAddExtension =>
      match egp.padPush with
      | some push =>
          match push.extensionData with
          | some (data, live) => egp.probeAddExtension push data live
          | none => (egp, [])
      | none => (egp, [])

/-- The events of the media path: the render side's steps and the streaming thread's. -/
def ServerEvent.isMedia : ServerEvent DownMessage → Bool
  | .setDownMsg _ | .setDownMsgClear | .setDownMsgStore | .pushFrame => true
  | .rtpPacket _ | .probeGetData | .probeAddExtension => true
  | _ => false

/-- The media path touches the published bytes, the frames and the packet on the pad, and
nothing of the peers, the tee, the channels or the sources. -/
theorem react_media_frame {egp : EmsGstreamerPipeline} {event : ServerEvent DownMessage}
    (media : event.isMedia) :
    (react encode egp event).1 =
      { egp with
        downMsgBytes := (react encode egp event).1.downMsgBytes
        downMsgPending := (react encode egp event).1.downMsgPending
        padPush := (react encode egp event).1.padPush
        queue := (react encode egp event).1.queue
        framesPushed := (react encode egp event).1.framesPushed } := by
  cases event
  case setDownMsg msg =>
    simp only [react]
    rw [egp.setDownMsg_frame encode msg]
  case setDownMsgClear | pushFrame => rfl
  case setDownMsgStore =>
    simp only [react]
    rw [egp.setDownMsgStore_frame]
  case rtpPacket last =>
    simp only [react]
    rw [egp.emitRtpPacket_frame last]
  case probeGetData =>
    simp only [react]
    split
    · rw [egp.callProbe_frame _]
    · rfl
  case probeAddExtension =>
    simp only [react]
    split
    · split
      · rw [egp.probeAddExtension_frame _ _ _]
      · rfl
    · rfl
  all_goals cases media

/-- One event: the callback's result when the environment can deliver the event and the
code's reaction to it is defined. -/
def step (egp : EmsGstreamerPipeline) (event : ServerEvent DownMessage) :
    Option (EmsGstreamerPipeline × List ServerObs) :=
  if event.enabled egp ∧ event.defined egp then some (react encode egp event) else none

theorem step_eq_some {egp egp' : EmsGstreamerPipeline} {event : ServerEvent DownMessage}
    {obs : List ServerObs} :
    step encode egp event = some (egp', obs) ↔
      event.enabled egp ∧ event.defined egp ∧ react encode egp event = (egp', obs) := by
  unfold step
  split <;> simp_all

/-- A run of events from a state, with everything it observes. -/
def run : EmsGstreamerPipeline → List (ServerEvent DownMessage) →
    Option (EmsGstreamerPipeline × List ServerObs)
  | egp, [] => some (egp, [])
  | egp, event :: events =>
      match step encode egp event with
      | none => none
      | some (egp', obs) => (run egp' events).map fun (egp'', obs') => (egp'', obs ++ obs')

@[simp] theorem run_nil (egp : EmsGstreamerPipeline) :
    run encode egp ([] : List (ServerEvent DownMessage)) = some (egp, []) := rfl

/-- What a run from the created pipeline observes, when the environment can deliver it. -/
def observe (events : List (ServerEvent DownMessage)) : Option (List ServerObs) :=
  (run encode emsGstreamerPipelineCreate events).map Prod.snd

/-- A run from a state is one step, then a run from where it leads. -/
theorem run_cons_eq_some {egp egp' : EmsGstreamerPipeline} {event : ServerEvent DownMessage}
    {events : List (ServerEvent DownMessage)} {obs : List ServerObs} :
    run encode egp (event :: events) = some (egp', obs) ↔
      ∃ egp₁ obs₁ obs₂, step encode egp event = some (egp₁, obs₁) ∧
        run encode egp₁ events = some (egp', obs₂) ∧ obs = obs₁ ++ obs₂ := by
  simp only [run]
  cases step encode egp event with
  | none => simp
  | some result =>
      obtain ⟨egp₁, obs₁⟩ := result
      simp only [Option.map_eq_some', Prod.exists, Prod.mk.injEq, Option.some.injEq]
      constructor
      · rintro ⟨egp₂, obs₂, ran, rfl, rfl⟩
        exact ⟨_, _, obs₂, ⟨rfl, rfl⟩, ran, rfl⟩
      · rintro ⟨_, _, obs₂, ⟨rfl, rfl⟩, ran, rfl⟩
        exact ⟨_, _, ran, rfl, rfl⟩

/-- A run of a concatenation is a run of the first part, then of the second. -/
theorem run_append_eq_some {egp egp'' : EmsGstreamerPipeline}
    {first second : List (ServerEvent DownMessage)} {obs : List ServerObs} :
    run encode egp (first ++ second) = some (egp'', obs) ↔
      ∃ egp' obs₁ obs₂, run encode egp first = some (egp', obs₁) ∧
        run encode egp' second = some (egp'', obs₂) ∧ obs = obs₁ ++ obs₂ := by
  induction first generalizing egp obs with
  | nil =>
      simp only [List.nil_append, run_nil, Option.some.injEq, Prod.mk.injEq]
      constructor
      · intro ran
        exact ⟨_, _, _, ⟨rfl, rfl⟩, ran, rfl⟩
      · rintro ⟨_, _, _, ⟨rfl, rfl⟩, ran, rfl⟩
        exact ran
  | cons event first inductionHypothesis =>
      rw [List.cons_append, run_cons_eq_some]
      constructor
      · rintro ⟨egp₁, obs₁, obs₂, stepped, ran, rfl⟩
        obtain ⟨egp', left, right, ranFirst, ranSecond, rfl⟩ := inductionHypothesis.mp ran
        exact ⟨egp', obs₁ ++ left, right,
          (run_cons_eq_some encode).mpr ⟨_, _, _, stepped, ranFirst, rfl⟩, ranSecond, by simp⟩
      · rintro ⟨egp', left, right, ranFirst, ranSecond, rfl⟩
        obtain ⟨egp₁, obs₁, obs₂, stepped, ran, rfl⟩ := (run_cons_eq_some encode).mp ranFirst
        exact ⟨egp₁, obs₁, obs₂ ++ right, stepped,
          inductionHypothesis.mpr ⟨_, _, _, ran, ranSecond, rfl⟩, by simp⟩

/-- A property every deliverable, defined event keeps holds at the end of a run. -/
theorem run_preserves (P : EmsGstreamerPipeline → Prop) {events : List (ServerEvent DownMessage)}
    (preserved : ∀ event ∈ events, ∀ egp, event.enabled egp → event.defined egp → P egp →
      P (react encode egp event).1) :
    ∀ {egp egp' obs}, P egp → run encode egp events = some (egp', obs) → P egp' := by
  induction events with
  | nil =>
      intro egp egp' obs holds ran
      simp only [run_nil, Option.some.injEq, Prod.mk.injEq] at ran
      exact ran.1 ▸ holds
  | cons event events inductionHypothesis =>
      intro egp egp' obs holds ran
      obtain ⟨egp₁, obs₁, obs₂, stepped, ran, -⟩ := (run_cons_eq_some encode).mp ran
      obtain ⟨enabled, defined, reacted⟩ := (step_eq_some encode).mp stepped
      have kept := preserved event (List.mem_cons_self _ _) egp enabled defined holds
      rw [reacted] at kept
      exact inductionHypothesis (fun e mem => preserved e (List.mem_cons_of_mem _ mem)) kept ran

end Server
end ElectricMaple
