import Mathlib.Data.List.Nodup
import ElectricMaple.Server.Peers

/-!
# Signalling: offers, answers and ICE candidates

The pipeline negotiates each peer over the signalling server. `on_offer_created` sets a
`webrtcbin`'s offer as its local description and sends it to the client stored as the
element's `client_id`, and `webrtc_on_ice_candidate_cb` sends the element's ICE candidates the
same way. What a client sends back is routed by name: `webrtc_sdp_answer_cb` and
`webrtc_candidate_cb` apply it to the element `get_webrtcbin_for_client` finds in the bin.

The signalling layer runs over the pipeline model: its events are the pipeline's, with the
payloads of the signalling messages, and a connect that finds the client's name taken is
undefined there as in the pipeline. An answer is set on the element whose offer the client
received last.
-/

namespace ElectricMaple
namespace Server

open EmsGstreamerPipeline

/-- What the signalling side does: a description or candidate applied to a `webrtcbin`, or a
message the signalling server sends to a client. An offer is named by the element that made
it. -/
inductive SignalObs where
  /-- `set-local-description` of an element's offer. -/
  | setLocalDescription (webrtcbin : Nat)
  /-- `ems_signaling_server_send_sdp_offer` of an element's offer. -/
  | sendSdpOffer (clientId webrtcbin : Nat)
  /-- `set-remote-description` of a client's answer. -/
  | setRemoteDescription (webrtcbin : Nat)
  /-- `add-ice-candidate` of a client's candidate. -/
  | addIceCandidate (webrtcbin mlineindex : Nat) (candidate : String)
  /-- `ems_signaling_server_send_candidate` of an element's candidate. -/
  | sendCandidate (clientId mlineindex : Nat) (candidate : String)
  deriving DecidableEq, Repr

/-- The element whose offer a message sends to `clientId`. -/
def SignalObs.offerTo (clientId : Nat) : SignalObs → Option Nat
  | .sendSdpOffer receiver webrtcbin => if receiver = clientId then some webrtcbin else none
  | _ => none

namespace EmsGstreamerPipeline

variable (egp : EmsGstreamerPipeline)

/-- `g_object_get_data (webrtcbin, "client_id")`: the client an element was made for. -/
def clientIdOf (id : Nat) : Option Nat :=
  (egp.webrtcbins.find? (·.id == id)).map (·.clientId)

/-- The signalling half of `on_offer_created`: set the offer as the element's local
description and send it to the element's client. -/
def onOfferCreatedSignals (id : Nat) : List SignalObs :=
  .setLocalDescription id :: ((egp.clientIdOf id).map fun clientId => .sendSdpOffer clientId id).toList

/-- `webrtc_sdp_answer_cb`: an answer whose text parses is set as the remote description of
the element named for the client, when the bin holds one. -/
def webrtcSdpAnswerCb (clientId : Nat) (parsed : Bool) : List SignalObs :=
  if parsed then
    ((egp.getWebrtcbinForClient clientId).map fun webrtcbin =>
      SignalObs.setRemoteDescription webrtcbin.id).toList
  else []

/-- `webrtc_candidate_cb`: a non-empty candidate is added to the element named for the client,
when the bin holds one. -/
def webrtcCandidateCb (clientId mlineindex : Nat) (candidate : String) : List SignalObs :=
  if candidate.isEmpty then [] else
    ((egp.getWebrtcbinForClient clientId).map fun webrtcbin =>
      SignalObs.addIceCandidate webrtcbin.id mlineindex candidate).toList

/-- `webrtc_on_ice_candidate_cb`: send the element's candidate to its client. -/
def webrtcOnIceCandidateCb (id mlineindex : Nat) (candidate : String) : List SignalObs :=
  ((egp.clientIdOf id).map fun clientId => SignalObs.sendCandidate clientId mlineindex candidate).toList

end EmsGstreamerPipeline

/-! ## Events and runs -/

/-- The events of the signalling layer: a pipeline event, or a signalling message with its
payload. -/
inductive SignalEvent (DownMessage : Type) where
  | pipeline (event : ServerEvent DownMessage)
  /-- `sdp-answer` from a client; `parsed` is whether `gst_sdp_message_new_from_text` accepts
  its text. -/
  | sdpAnswer (clientId : Nat) (parsed : Bool)
  /-- `candidate` from a client. -/
  | candidate (clientId mlineindex : Nat) (candidate : String)
  /-- `on-ice-candidate` of an element. -/
  | iceCandidate (webrtcbin mlineindex : Nat) (candidate : String)
  deriving DecidableEq, Repr

variable {DownMessage : Type} (encode : DownMessage → Option Bytes)

/-- Whether the environment can deliver an event: a pipeline event when the pipeline model
can and its reaction is defined, a client's messages only with their payload, and an element's
ICE candidates once it has set its offer as local description. -/
def SignalEvent.enabled (egp : EmsGstreamerPipeline) : SignalEvent DownMessage → Bool
  | .pipeline (.sdpAnswer _) | .pipeline (.candidate _) => false
  | .pipeline event => event.enabled egp && event.defined egp
  | .sdpAnswer _ _ | .candidate _ _ _ => true
  | .iceCandidate id _ _ => decide (id < egp.webrtcbins.length ∧ id ∉ egp.pendingOffers)

/-- The pipeline after an event: a pipeline event runs its callback, and the signalling
callbacks change nothing the model keeps. -/
def SignalEvent.next (egp : EmsGstreamerPipeline) : SignalEvent DownMessage → EmsGstreamerPipeline
  | .pipeline event => (react encode egp event).1
  | _ => egp

/-- What the signalling callbacks do on an event. -/
def signals (egp : EmsGstreamerPipeline) : SignalEvent DownMessage → List SignalObs
  | .pipeline (.offerCreated id) => egp.onOfferCreatedSignals id
  | .pipeline _ => []
  | .sdpAnswer clientId parsed => egp.webrtcSdpAnswerCb clientId parsed
  | .candidate clientId mlineindex candidate => egp.webrtcCandidateCb clientId mlineindex candidate
  | .iceCandidate id mlineindex candidate => egp.webrtcOnIceCandidateCb id mlineindex candidate

/-- A run of the signalling layer from a state, with everything the signalling side does. -/
def signalRun : EmsGstreamerPipeline → List (SignalEvent DownMessage) →
    Option (EmsGstreamerPipeline × List SignalObs)
  | egp, [] => some (egp, [])
  | egp, event :: events =>
      if event.enabled egp then
        (signalRun (event.next encode egp) events).map fun (egp', log) =>
          (egp', signals egp event ++ log)
      else none

theorem signalRun_cons_eq_some {egp egp' : EmsGstreamerPipeline} {event : SignalEvent DownMessage}
    {events : List (SignalEvent DownMessage)} {log : List SignalObs} :
    signalRun encode egp (event :: events) = some (egp', log) ↔
      event.enabled egp ∧ ∃ rest, signalRun encode (event.next encode egp) events = some (egp', rest) ∧
        log = signals egp event ++ rest := by
  simp only [signalRun]
  split
  next enabled =>
    simp only [Option.map_eq_some', Prod.exists, Prod.mk.injEq, enabled, true_and]
    constructor
    · rintro ⟨_, rest, ran, rfl, rfl⟩
      exact ⟨rest, ran, rfl⟩
    · rintro ⟨rest, ran, rfl⟩
      exact ⟨_, _, ran, rfl, rfl⟩
  next disabled => simp [disabled]

/-- A pipeline event the signalling layer delivers is one the pipeline model can deliver, with
a defined reaction. -/
theorem SignalEvent.enabled_pipeline {egp : EmsGstreamerPipeline} {event : ServerEvent DownMessage}
    (enabled : (SignalEvent.pipeline event).enabled egp) : event.enabled egp ∧ event.defined egp := by
  cases event <;> simp_all [SignalEvent.enabled]

/-! ## What the pipeline events do to the elements and the offers -/

/-- The reply to an element's `create-offer` drops its pending offer and links its `sink_0`
when the element is in the bin. -/
theorem react_offerCreated_fields (egp : EmsGstreamerPipeline) (id : Nat) :
    ((react encode egp (.offerCreated id)).1.webrtcbins = egp.webrtcbins ∨
      (react encode egp (.offerCreated id)).1.webrtcbins = updateWebrtcbin egp.webrtcbins id
        fun webrtcbin => { webrtcbin with sink0 := some egp.teePads.length }) ∧
    (react encode egp (.offerCreated id)).1.pendingOffers = egp.pendingOffers.erase id ∧
    (react encode egp (.offerCreated id)).1.blockProbes = egp.blockProbes := by
  refine ⟨?_, rfl, rfl⟩
  by_cases parent : egp.hasParent id
  · exact .inr (if_pos parent)
  · exact .inl (if_neg parent)

/-- What an event does to the elements, the pending offers and the blocking probes: a
connect adds an element and its pending offer, an offer's reply drops it and may link the
element's `sink_0`, a disconnect may add a blocking probe, a probe that fires takes its
element out of the bin, and every other event leaves the three alone. -/
theorem react_peerFields (egp : EmsGstreamerPipeline) (event : ServerEvent DownMessage) :
    (∃ clientId channelCreated, event = .wsClientConnected clientId channelCreated ∧
      (react encode egp event).1.webrtcbins = egp.webrtcbins ++
        [⟨egp.webrtcbins.length, clientId, true, none⟩] ∧
      (react encode egp event).1.pendingOffers = egp.pendingOffers ++ [egp.webrtcbins.length] ∧
      (react encode egp event).1.blockProbes = egp.blockProbes) ∨
    (∃ id, event = .offerCreated id ∧
      ((react encode egp event).1.webrtcbins = egp.webrtcbins ∨
        (react encode egp event).1.webrtcbins = updateWebrtcbin egp.webrtcbins id
          fun webrtcbin => { webrtcbin with sink0 := some egp.teePads.length }) ∧
      (react encode egp event).1.pendingOffers = egp.pendingOffers.erase id ∧
      (react encode egp event).1.blockProbes = egp.blockProbes) ∨
    (∃ clientId, event = .wsClientDisconnected clientId ∧
      (react encode egp event).1.webrtcbins = egp.webrtcbins ∧
      (react encode egp event).1.pendingOffers = egp.pendingOffers ∧
      (react encode egp event).1.blockProbes =
        egp.blockProbes ++ (egp.disconnectProbe clientId).toList) ∨
    (∃ pad id, event = .blockProbeFires pad id ∧
      (react encode egp event).1.webrtcbins = updateWebrtcbin egp.webrtcbins id
        (fun webrtcbin => { webrtcbin with inPipeline := false }) ∧
      (react encode egp event).1.pendingOffers = egp.pendingOffers ∧
      (react encode egp event).1.blockProbes = egp.blockProbes.erase (pad, id)) ∨
    ((∀ id, event ≠ .offerCreated id) ∧ (react encode egp event).1.webrtcbins = egp.webrtcbins ∧
      (react encode egp event).1.pendingOffers = egp.pendingOffers ∧
      (react encode egp event).1.blockProbes = egp.blockProbes) := by
  by_cases media : event.isMedia
  · rw [react_media_frame encode media]
    exact .inr (.inr (.inr (.inr ⟨fun _ same => by simp [same, ServerEvent.isMedia] at media,
      rfl, rfl, rfl⟩)))
  cases event with
  | wsClientConnected clientId channelCreated =>
      exact .inl ⟨clientId, channelCreated, rfl, rfl, rfl, rfl⟩
  | offerCreated id => exact .inr (.inl ⟨id, rfl, react_offerCreated_fields encode egp id⟩)
  | wsClientDisconnected clientId => exact .inr (.inr (.inl ⟨clientId, rfl, rfl, rfl, rfl⟩))
  | blockProbeFires pad id => exact .inr (.inr (.inr (.inl ⟨pad, id, rfl, rfl, rfl, rfl⟩)))
  | _ => first | exact absurd rfl media |
      exact .inr (.inr (.inr (.inr ⟨fun _ same => ServerEvent.noConfusion same, rfl, rfl, rfl⟩)))

/-! ## The offers' bookkeeping -/

/-- The bookkeeping of offers in every reachable pipeline: elements are numbered by their
index, each pending offer is of a made element and pending once, and an element whose
`sink_0` is linked, or that a blocking probe waits to remove, has had its offer created. -/
structure OfferBook (egp : EmsGstreamerPipeline) : Prop where
  idsIndexed : egp.webrtcbins.map (·.id) = List.range egp.webrtcbins.length
  pendingMade : ∀ id ∈ egp.pendingOffers, id < egp.webrtcbins.length
  pendingNodup : egp.pendingOffers.Nodup
  linkedOffered : ∀ webrtcbin ∈ egp.webrtcbins, webrtcbin.sink0.isSome →
    webrtcbin.id ∉ egp.pendingOffers
  probedOffered : ∀ pad id, (pad, id) ∈ egp.blockProbes →
    id < egp.webrtcbins.length ∧ id ∉ egp.pendingOffers

theorem offerBook_create : OfferBook emsGstreamerPipelineCreate :=
  ⟨rfl, by simp [emsGstreamerPipelineCreate], List.nodup_nil, by simp [emsGstreamerPipelineCreate],
    by simp [emsGstreamerPipelineCreate]⟩

theorem OfferBook.id_lt {egp : EmsGstreamerPipeline} (book : OfferBook egp) {webrtcbin : Webrtcbin}
    (mem : webrtcbin ∈ egp.webrtcbins) : webrtcbin.id < egp.webrtcbins.length := by
  have listed : webrtcbin.id ∈ egp.webrtcbins.map (·.id) := List.mem_map_of_mem _ mem
  rw [book.idsIndexed] at listed
  exact List.mem_range.mp listed

/-- A made element's id is not the index the next element gets. -/
theorem OfferBook.id_ne_length {egp : EmsGstreamerPipeline} (book : OfferBook egp)
    {webrtcbin : Webrtcbin} (mem : webrtcbin ∈ egp.webrtcbins) :
    webrtcbin.id ≠ egp.webrtcbins.length :=
  (book.id_lt mem).ne

theorem OfferBook.length_not_pending {egp : EmsGstreamerPipeline} (book : OfferBook egp) :
    egp.webrtcbins.length ∉ egp.pendingOffers :=
  fun pending => lt_irrefl _ (book.pendingMade _ pending)

section OfferBookSteps

variable {egp egp' : EmsGstreamerPipeline} (book : OfferBook egp)
include book

/-- A connect keeps the bookkeeping: the new element gets the next index and a pending offer
that is of no element before it. -/
theorem OfferBook.connect {clientId : Nat} {inBin : Bool}
    (webrtcbins : egp'.webrtcbins = egp.webrtcbins ++ [⟨egp.webrtcbins.length, clientId, inBin, none⟩])
    (pending : egp'.pendingOffers = egp.pendingOffers ++ [egp.webrtcbins.length])
    (probes : egp'.blockProbes = egp.blockProbes) : OfferBook egp' where
  idsIndexed := by simp [webrtcbins, List.range_succ, book.idsIndexed]
  pendingMade id mem := by
    rw [pending, List.mem_append, List.mem_singleton] at mem
    rw [webrtcbins, List.length_append, List.length_singleton]
    rcases mem with mem | rfl
    · exact Nat.lt_succ_of_lt (book.pendingMade id mem)
    · exact Nat.lt_succ_self _
  pendingNodup := by
    rw [pending]
    exact List.nodup_append.mpr ⟨book.pendingNodup, List.nodup_singleton _,
      fun _ mem single => book.length_not_pending (List.mem_singleton.mp single ▸ mem)⟩
  linkedOffered webrtcbin mem linked := by
    rw [webrtcbins, List.mem_append, List.mem_singleton] at mem
    rcases mem with mem | rfl
    · simp [pending, book.linkedOffered webrtcbin mem linked, book.id_ne_length mem]
    · simp at linked
  probedOffered pad id probed := by
    obtain ⟨made, notPending⟩ := book.probedOffered pad id (probes ▸ probed)
    rw [webrtcbins, pending, List.length_append, List.length_singleton, List.mem_append,
      List.mem_singleton]
    exact ⟨Nat.lt_succ_of_lt made, by rintro (mem | rfl); exacts [notPending mem, lt_irrefl _ made]⟩

/-- An offer's reply keeps the bookkeeping: the element whose `sink_0` it links is the one
whose offer it drops from the pending ones. -/
theorem OfferBook.offerCreated {id : Nat}
    (webrtcbins : egp'.webrtcbins = egp.webrtcbins ∨ egp'.webrtcbins = updateWebrtcbin
      egp.webrtcbins id fun webrtcbin => { webrtcbin with sink0 := some egp.teePads.length })
    (pending : egp'.pendingOffers = egp.pendingOffers.erase id)
    (probes : egp'.blockProbes = egp.blockProbes) : OfferBook egp' := by
  have length : egp'.webrtcbins.length = egp.webrtcbins.length := by
    rcases webrtcbins with webrtcbins | webrtcbins <;> simp [webrtcbins, updateWebrtcbin]
  have dropped : ∀ other, other ∉ egp.pendingOffers → other ∉ egp'.pendingOffers :=
    fun other notPending mem => notPending (List.mem_of_mem_erase (pending ▸ mem))
  refine ⟨?_, fun other mem => length ▸ book.pendingMade other (List.mem_of_mem_erase
    (pending ▸ mem)), pending ▸ book.pendingNodup.erase id, ?_,
    fun pad other probed => ?_⟩
  · rcases webrtcbins with webrtcbins | webrtcbins
    · rw [length, webrtcbins, book.idsIndexed]
    · rw [length, ← book.idsIndexed, webrtcbins]
      simp [updateWebrtcbin, apply_ite]
  · intro webrtcbin' mem linked
    rcases webrtcbins with webrtcbins | webrtcbins
    · exact dropped _ (book.linkedOffered webrtcbin' (webrtcbins ▸ mem) linked)
    · obtain ⟨webrtcbin, before, rfl⟩ := mem_updateWebrtcbin.mp (webrtcbins ▸ mem)
      by_cases chosen : webrtcbin.id = id
      · simpa [chosen, pending] using book.pendingNodup.not_mem_erase
      · simp only [chosen, if_false] at linked ⊢
        exact dropped _ (book.linkedOffered webrtcbin before linked)
  · obtain ⟨made, notPending⟩ := book.probedOffered pad other (probes ▸ probed)
    exact ⟨length ▸ made, dropped _ notPending⟩

/-- A disconnect keeps the bookkeeping: the probe it installs is on a linked element. -/
theorem OfferBook.disconnect {clientId : Nat} (webrtcbins : egp'.webrtcbins = egp.webrtcbins)
    (pending : egp'.pendingOffers = egp.pendingOffers)
    (probes : egp'.blockProbes = egp.blockProbes ++ (egp.disconnectProbe clientId).toList) :
    OfferBook egp' := by
  refine ⟨?_, ?_, ?_, ?_, fun pad id probed => ?_⟩
  · rw [webrtcbins]
    exact book.idsIndexed
  · rw [webrtcbins, pending]
    exact book.pendingMade
  · rw [pending]
    exact book.pendingNodup
  · rw [webrtcbins, pending]
    exact book.linkedOffered
  rw [probes, List.mem_append] at probed
  rw [webrtcbins, pending]
  rcases probed with probed | probed
  · exact book.probedOffered pad id probed
  · obtain ⟨webrtcbin, mem, rfl, -, -, sink⟩ :=
      disconnectProbe_eq_some (Option.mem_toList.mp probed)
    exact ⟨book.id_lt mem, book.linkedOffered webrtcbin mem (by simp [sink])⟩

/-- A blocking probe that fires keeps the bookkeeping: it only takes its element out of the
bin. -/
theorem OfferBook.blockProbeFires {pad id : Nat}
    (webrtcbins : egp'.webrtcbins = updateWebrtcbin egp.webrtcbins id
      fun webrtcbin => { webrtcbin with inPipeline := false })
    (pending : egp'.pendingOffers = egp.pendingOffers)
    (probes : egp'.blockProbes = egp.blockProbes.erase (pad, id)) : OfferBook egp' := by
  have length : egp'.webrtcbins.length = egp.webrtcbins.length := by
    simp [webrtcbins, updateWebrtcbin]
  refine ⟨?_, length ▸ pending ▸ book.pendingMade, pending ▸ book.pendingNodup, ?_, ?_⟩
  · rw [length, ← book.idsIndexed, webrtcbins]
    simp [updateWebrtcbin, apply_ite]
  · intro webrtcbin' mem linked
    obtain ⟨webrtcbin, before, rfl⟩ := mem_updateWebrtcbin.mp (webrtcbins ▸ mem)
    rw [pending]
    by_cases chosen : webrtcbin.id = id
    · simp only [chosen, if_true] at linked ⊢
      exact chosen ▸ book.linkedOffered webrtcbin before linked
    · simp only [chosen, if_false] at linked ⊢
      exact book.linkedOffered webrtcbin before linked
  · intro pad' other probed
    rw [length, pending]
    exact book.probedOffered pad' other (List.mem_of_mem_erase (probes ▸ probed))

end OfferBookSteps

/-- Every event keeps the bookkeeping of offers. -/
theorem react_offerBook {egp : EmsGstreamerPipeline} (event : ServerEvent DownMessage)
    (book : OfferBook egp) : OfferBook (react encode egp event).1 := by
  rcases react_peerFields encode egp event with
    ⟨_, _, -, webrtcbins, pending, probes⟩ | ⟨_, -, webrtcbins, pending, probes⟩ |
    ⟨_, -, webrtcbins, pending, probes⟩ | ⟨_, _, -, webrtcbins, pending, probes⟩ |
    ⟨-, webrtcbins, pending, probes⟩
  · exact book.connect webrtcbins pending probes
  · exact book.offerCreated webrtcbins pending probes
  · exact book.disconnect webrtcbins pending probes
  · exact book.blockProbeFires webrtcbins pending probes
  · obtain ⟨idsIndexed, pendingMade, pendingNodup, linkedOffered, probedOffered⟩ := book
    exact ⟨webrtcbins ▸ idsIndexed, webrtcbins ▸ pending ▸ pendingMade, pending ▸ pendingNodup,
      webrtcbins ▸ pending ▸ linkedOffered, webrtcbins ▸ pending ▸ probes ▸ probedOffered⟩

/-! ## Made elements -/

section Elements

variable {egp : EmsGstreamerPipeline} (book : OfferBook egp)
include book

/-- `client_id` of a made element is the client it was made for. -/
theorem OfferBook.clientIdOf_of_mem {webrtcbin : Webrtcbin} (mem : webrtcbin ∈ egp.webrtcbins) :
    egp.clientIdOf webrtcbin.id = some webrtcbin.clientId := by
  have unique := List.inj_on_of_nodup_map (book.idsIndexed ▸ List.nodup_range _)
  obtain ⟨found, foundId⟩ : ∃ found, egp.webrtcbins.find? (·.id == webrtcbin.id) = some found :=
    Option.isSome_iff_exists.mp (List.find?_isSome.mpr ⟨webrtcbin, mem, by simp⟩)
  have same : found = webrtcbin :=
    unique (List.mem_of_find?_eq_some foundId) mem (by simpa using List.find?_some foundId)
  simp [clientIdOf, foundId, same]

/-- Every index below the count of made elements is a made element's id. -/
theorem OfferBook.exists_of_lt {id : Nat} (made : id < egp.webrtcbins.length) :
    ∃ webrtcbin ∈ egp.webrtcbins, webrtcbin.id = id := by
  have listed : id ∈ egp.webrtcbins.map (·.id) := by
    rw [book.idsIndexed]
    exact List.mem_range.mpr made
  simpa using listed

end Elements

/-- Only the reply to an element's `create-offer` sends an offer, and it sends the offer of
that element to the element's client. -/
theorem sendSdpOffer_mem_signals {egp : EmsGstreamerPipeline} {event : SignalEvent DownMessage}
    {clientId id : Nat} (sent : SignalObs.sendSdpOffer clientId id ∈ signals egp event) :
    event = .pipeline (.offerCreated id) ∧ egp.clientIdOf id = some clientId := by
  cases event with
  | pipeline event =>
      cases event
      case offerCreated id' =>
        simp only [signals, onOfferCreatedSignals, List.mem_cons, reduceCtorEq, false_or,
          Option.mem_toList, Option.mem_def, Option.map_eq_some', SignalObs.sendSdpOffer.injEq] at sent
        obtain ⟨_, made, rfl, rfl⟩ := sent
        exact ⟨rfl, made⟩
      all_goals simp [signals] at sent
  | sdpAnswer clientId' parsed =>
      simp only [signals, webrtcSdpAnswerCb] at sent
      split at sent <;> simp_all
  | candidate clientId' mlineindex candidate =>
      simp only [signals, webrtcCandidateCb] at sent
      split at sent <;> simp_all
  | iceCandidate id' mlineindex candidate => simp [signals, webrtcOnIceCandidateCb] at sent

theorem SignalEvent.next_offerBook {egp : EmsGstreamerPipeline} (event : SignalEvent DownMessage)
    (book : OfferBook egp) : OfferBook (event.next encode egp) := by
  cases event with
  | pipeline event => exact react_offerBook encode event book
  | _ => exact book

/-! ## Answers meet the offers they answer -/

/-- Whether a connect finds no element of the client's name in the bin, so that `gst_bin_add`
adds the new element; every other event passes. -/
def SignalEvent.connectFree (egp : EmsGstreamerPipeline) : SignalEvent DownMessage → Bool
  | .pipeline (.wsClientConnected clientId _) => (egp.getWebrtcbinForClient clientId).isNone
  | _ => true

/-- Whether every connect of a run finds the client's name free. -/
def connectsFree : EmsGstreamerPipeline → List (SignalEvent DownMessage) → Bool
  | _, [] => true
  | egp, event :: events => event.connectFree egp && connectsFree (event.next encode egp) events

/-- A property that every deliverable event keeps, when it is not a connect that finds its
name taken, holds at the end of every run whose connects find their names free. -/
theorem signalRun_preserves_of_connectsFree (P : EmsGstreamerPipeline → List SignalObs → Prop)
    (preserved : ∀ egp log (event : SignalEvent DownMessage), event.enabled egp →
      event.connectFree egp → P egp log → P (event.next encode egp) (log ++ signals egp event))
    {events : List (SignalEvent DownMessage)} {egp egp' : EmsGstreamerPipeline}
    {log rest : List SignalObs} (free : connectsFree encode egp events) (holds : P egp log)
    (ran : signalRun encode egp events = some (egp', rest)) : P egp' (log ++ rest) := by
  induction events generalizing egp log rest with
  | nil =>
      simp only [signalRun, Option.some.injEq, Prod.mk.injEq] at ran
      obtain ⟨rfl, rfl⟩ := ran
      simpa using holds
  | cons event events inductionHypothesis =>
      obtain ⟨enabled, rest', ranRest, rfl⟩ := (signalRun_cons_eq_some encode).mp ran
      simp only [connectsFree, Bool.and_eq_true] at free
      rw [← List.append_assoc]
      exact inductionHypothesis free.2 (preserved egp log event enabled free.1 holds) ranRest

/-- The negotiation state of runs whose connects find their names free: an element out of the
bin has had its offer created, and an element in the bin whose offer was created sent the last
offer its client received. -/
structure OffersMatchPeers (egp : EmsGstreamerPipeline) (log : List SignalObs) : Prop where
  unboundOffered : ∀ webrtcbin ∈ egp.webrtcbins, webrtcbin.inPipeline = false →
    webrtcbin.id ∉ egp.pendingOffers
  lastOffer : ∀ webrtcbin ∈ egp.webrtcbins, webrtcbin.inPipeline →
    webrtcbin.id ∉ egp.pendingOffers →
      (log.filterMap (SignalObs.offerTo webrtcbin.clientId)).getLast? = some webrtcbin.id

theorem filterMap_offerTo_eq_nil {quiet : List SignalObs} (clientId : Nat)
    (noOffer : ∀ receiver id, SignalObs.sendSdpOffer receiver id ∉ quiet) :
    quiet.filterMap (SignalObs.offerTo clientId) = [] := by
  refine List.filterMap_eq_nil_iff.mpr fun obs mem => ?_
  cases obs <;> simp only [SignalObs.offerTo]
  case sendSdpOffer receiver id => exact absurd mem (noOffer receiver id)

section MatchSteps

variable {egp egp' : EmsGstreamerPipeline} {log : List SignalObs} (book : OfferBook egp)
  (matched : OffersMatchPeers egp log)
include book matched

/-- A connect that finds its name free keeps the negotiation state: the new element is in the
bin and its offer is pending. -/
theorem OffersMatchPeers.connect {clientId : Nat}
    (webrtcbins : egp'.webrtcbins = egp.webrtcbins ++ [⟨egp.webrtcbins.length, clientId, true, none⟩])
    (pending : egp'.pendingOffers = egp.pendingOffers ++ [egp.webrtcbins.length]) :
    OffersMatchPeers egp' log := by
  constructor
  · intro webrtcbin mem unbound
    rw [webrtcbins, List.mem_append, List.mem_singleton] at mem
    rcases mem with mem | rfl
    · simp [pending, matched.unboundOffered webrtcbin mem unbound, book.id_ne_length mem]
    · simp at unbound
  · intro webrtcbin mem inBin notPending
    rw [webrtcbins, List.mem_append, List.mem_singleton] at mem
    rw [pending] at notPending
    rcases mem with mem | rfl
    · exact matched.lastOffer webrtcbin mem inBin fun pending => notPending (List.mem_append_left _ pending)
    · simp at notPending

/-- A blocking probe that fires keeps the negotiation state: the element it takes out of the
bin has had its offer created. -/
theorem OffersMatchPeers.blockProbeFires {pad id : Nat} (probed : (pad, id) ∈ egp.blockProbes)
    (webrtcbins : egp'.webrtcbins = updateWebrtcbin egp.webrtcbins id
      fun webrtcbin => { webrtcbin with inPipeline := false })
    (pending : egp'.pendingOffers = egp.pendingOffers) : OffersMatchPeers egp' log := by
  constructor
  · intro webrtcbin' mem unbound
    obtain ⟨webrtcbin, before, rfl⟩ := mem_updateWebrtcbin.mp (webrtcbins ▸ mem)
    rw [pending]
    by_cases chosen : webrtcbin.id = id
    · simpa [chosen] using (book.probedOffered pad id probed).2
    · simp only [chosen, if_false] at unbound ⊢
      exact matched.unboundOffered webrtcbin before unbound
  · intro webrtcbin' mem inBin notPending
    obtain ⟨webrtcbin, before, rfl⟩ := mem_updateWebrtcbin.mp (webrtcbins ▸ mem)
    rw [pending] at notPending
    by_cases chosen : webrtcbin.id = id
    · simp [chosen] at inBin
    · simp only [chosen, if_false] at inBin notPending ⊢
      exact matched.lastOffer webrtcbin before inBin notPending

/-- The reply to a pending `create-offer` keeps the negotiation state: it sends its element's
offer to the element's client, and no other element of that client can have a pending offer,
since the bin holds at most one element of each name and an element out of it has had its
offer created. -/
theorem OffersMatchPeers.offerCreated (unique : PeersUnique egp) {id : Nat}
    (pending : id ∈ egp.pendingOffers)
    (webrtcbins : egp'.webrtcbins = egp.webrtcbins ∨ egp'.webrtcbins = updateWebrtcbin
      egp.webrtcbins id fun webrtcbin => { webrtcbin with sink0 := some egp.teePads.length })
    (pendingOffers : egp'.pendingOffers = egp.pendingOffers.erase id) :
    OffersMatchPeers egp' (log ++ egp.onOfferCreatedSignals id) := by
  obtain ⟨offerer, made, rfl⟩ := book.exists_of_lt (book.pendingMade _ pending)
  have kept : ∀ webrtcbin' ∈ egp'.webrtcbins, ∃ webrtcbin ∈ egp.webrtcbins,
      webrtcbin'.id = webrtcbin.id ∧ webrtcbin'.clientId = webrtcbin.clientId ∧
        webrtcbin'.inPipeline = webrtcbin.inPipeline := by
    intro webrtcbin' mem
    rcases webrtcbins with webrtcbins | webrtcbins
    · exact ⟨webrtcbin', webrtcbins ▸ mem, rfl, rfl, rfl⟩
    · obtain ⟨webrtcbin, before, rfl⟩ := mem_updateWebrtcbin.mp (webrtcbins ▸ mem)
      exact ⟨webrtcbin, before, by split <;> simp⟩
  have offersTo : ∀ clientId,
      (egp.onOfferCreatedSignals offerer.id).filterMap (SignalObs.offerTo clientId) =
        if offerer.clientId = clientId then [offerer.id] else [] := by
    intro clientId
    by_cases same : offerer.clientId = clientId <;>
      simp [onOfferCreatedSignals, book.clientIdOf_of_mem made, SignalObs.offerTo, same]
  constructor
  · intro webrtcbin' mem unbound
    obtain ⟨webrtcbin, before, sameId, -, sameBin⟩ := kept webrtcbin' mem
    rw [pendingOffers, sameId]
    exact fun erased => matched.unboundOffered webrtcbin before (sameBin ▸ unbound)
      (List.mem_of_mem_erase erased)
  · intro webrtcbin' mem inBin notPending
    obtain ⟨webrtcbin, before, sameId, sameClient, sameBin⟩ := kept webrtcbin' mem
    rw [pendingOffers, sameId, book.pendingNodup.mem_erase_iff] at notPending
    rw [sameId, sameClient, List.filterMap_append, offersTo]
    by_cases offered : webrtcbin.id = offerer.id
    · have client : offerer.clientId = webrtcbin.clientId := Option.some.inj <|
        (book.clientIdOf_of_mem made).symm.trans (offered ▸ book.clientIdOf_of_mem before)
      simp [client, offered, List.getLast?_concat]
    · have last := matched.lastOffer webrtcbin before (sameBin ▸ inBin)
        fun pending => notPending ⟨offered, pending⟩
      have otherClient : offerer.clientId ≠ webrtcbin.clientId := by
        intro client
        cases offererInBin : offerer.inPipeline
        · exact matched.unboundOffered offerer made offererInBin pending
        · exact offered (unique webrtcbin before offerer made (sameBin ▸ inBin) offererInBin
            client.symm)
      simpa [otherClient] using last

end MatchSteps

section MatchFrame

variable {egp egp' : EmsGstreamerPipeline} {log : List SignalObs}
  (matched : OffersMatchPeers egp log)
include matched

/-- Signals that send no offer keep the negotiation state. -/
theorem OffersMatchPeers.append_quiet {quiet : List SignalObs}
    (noOffer : ∀ receiver id, SignalObs.sendSdpOffer receiver id ∉ quiet) :
    OffersMatchPeers egp (log ++ quiet) := by
  refine ⟨matched.unboundOffered, fun webrtcbin mem inBin notPending => ?_⟩
  rw [List.filterMap_append, filterMap_offerTo_eq_nil _ noOffer, List.append_nil]
  exact matched.lastOffer webrtcbin mem inBin notPending

/-- An event that leaves the elements and the pending offers alone keeps the negotiation
state. -/
theorem OffersMatchPeers.of_eq (webrtcbins : egp'.webrtcbins = egp.webrtcbins)
    (pending : egp'.pendingOffers = egp.pendingOffers) : OffersMatchPeers egp' log := by
  obtain ⟨unboundOffered, lastOffer⟩ := matched
  constructor <;> rw [webrtcbins, pending] <;> assumption

end MatchFrame

/-- Every deliverable event keeps the negotiation state. -/
theorem offersMatchPeers_step {egp : EmsGstreamerPipeline} {log : List SignalObs}
    {event : SignalEvent DownMessage} (enabled : event.enabled egp)
    (book : OfferBook egp) (unique : PeersUnique egp) (matched : OffersMatchPeers egp log) :
    OffersMatchPeers (event.next encode egp) (log ++ signals egp event) := by
  by_cases offer : ∃ id, event = .pipeline (.offerCreated id)
  · obtain ⟨id, rfl⟩ := offer
    obtain ⟨webrtcbins, pending, -⟩ := react_offerCreated_fields encode egp id
    exact matched.offerCreated book unique
      (by simpa [ServerEvent.enabled] using (SignalEvent.enabled_pipeline enabled).1) webrtcbins
      pending
  · have noOffer : ∀ receiver id, SignalObs.sendSdpOffer receiver id ∉ signals egp event :=
      fun _ id sentNow => offer ⟨id, (sendSdpOffer_mem_signals sentNow).1⟩
    refine OffersMatchPeers.append_quiet ?_ noOffer
    cases event with
    | pipeline event =>
        rcases react_peerFields encode egp event with
          ⟨clientId, _, rfl, webrtcbins, pending, -⟩ | ⟨id, rfl, -⟩ | ⟨_, -, webrtcbins, pending, -⟩ |
          ⟨pad, id, rfl, webrtcbins, pending, -⟩ | ⟨-, webrtcbins, pending, -⟩
        · exact matched.connect book webrtcbins pending
        · exact absurd ⟨id, rfl⟩ offer
        · exact matched.of_eq webrtcbins pending
        · exact matched.blockProbeFires book
            (by simpa [ServerEvent.enabled] using (SignalEvent.enabled_pipeline enabled).1)
            webrtcbins pending
        · exact matched.of_eq webrtcbins pending
    | _ => exact matched

theorem SignalEvent.next_peersUnique {egp : EmsGstreamerPipeline} {event : SignalEvent DownMessage}
    (enabled : event.enabled egp) (unique : PeersUnique egp) :
    PeersUnique (event.next encode egp) := by
  cases event with
  | pipeline event =>
      exact react_peersUnique encode event (SignalEvent.enabled_pipeline enabled).2 unique
  | _ => exact unique

/-- In every run whose connects find their client's name free, an answer is set on the
element whose offer the client received last, once that element's offer is out: the offers a
client is sent and the answers it sends meet at one element. -/
theorem answer_set_on_last_offerer {events : List (SignalEvent DownMessage)}
    {egp : EmsGstreamerPipeline} {log : List SignalObs}
    (ran : signalRun encode emsGstreamerPipelineCreate events = some (egp, log))
    (free : connectsFree encode emsGstreamerPipelineCreate events = true) {clientId id : Nat}
    (applied : SignalObs.setRemoteDescription id ∈
      signals egp (.sdpAnswer clientId true : SignalEvent DownMessage))
    (offered : id ∉ egp.pendingOffers) :
    (log.filterMap (SignalObs.offerTo clientId)).getLast? = some id := by
  have start : OfferBook emsGstreamerPipelineCreate ∧ PeersUnique emsGstreamerPipelineCreate ∧
      OffersMatchPeers emsGstreamerPipelineCreate [] :=
    ⟨offerBook_create, by simp [PeersUnique, emsGstreamerPipelineCreate],
      by simp [emsGstreamerPipelineCreate], by simp [emsGstreamerPipelineCreate]⟩
  obtain ⟨-, -, matched⟩ := signalRun_preserves_of_connectsFree encode
    (fun egp log => OfferBook egp ∧ PeersUnique egp ∧ OffersMatchPeers egp log)
    (fun _ _ event enabled _ holds => ⟨event.next_offerBook encode holds.1,
      SignalEvent.next_peersUnique encode enabled holds.2.1,
      offersMatchPeers_step encode enabled holds.1 holds.2.1 holds.2.2⟩) free start ran
  simp only [signals, webrtcSdpAnswerCb, if_true, Option.mem_toList, Option.mem_def,
    Option.map_eq_some', SignalObs.setRemoteDescription.injEq] at applied
  obtain ⟨webrtcbin, found, rfl⟩ := applied
  have named := List.find?_some found
  simp only [Bool.and_eq_true, beq_iff_eq] at named
  simpa [named.1] using
    matched.lastOffer webrtcbin (List.mem_of_find?_eq_some found) named.2 offered

/-- Client `5` connects and is offered element `0`, disconnects, and once the blocking probe
has taken element `0` out of the bin connects again and is offered element `1`. -/
def cleanReconnect : List (SignalEvent Bytes) :=
  [.pipeline (.wsClientConnected 5 true), .pipeline (.offerCreated 0),
    .pipeline (.wsClientDisconnected 5), .pipeline (.blockProbeFires 0 0),
    .pipeline (.wsClientConnected 5 true), .pipeline (.offerCreated 1)]

/-- What the signalling layer does over `cleanReconnect`. -/
def cleanReconnectRun : EmsGstreamerPipeline × List SignalObs :=
  (signalRun (fun msg : Bytes => some msg) emsGstreamerPipelineCreate cleanReconnect).getD
    (emsGstreamerPipelineCreate, [])

theorem answer_set_on_last_offerer_after_clean_reconnect :
    signalRun (fun msg : Bytes => some msg) emsGstreamerPipelineCreate cleanReconnect =
        some cleanReconnectRun ∧
      connectsFree (fun msg : Bytes => some msg) emsGstreamerPipelineCreate cleanReconnect = true ∧
      SignalObs.setRemoteDescription 1 ∈
        signals cleanReconnectRun.1 (.sdpAnswer 5 true : SignalEvent Bytes) ∧
      1 ∉ cleanReconnectRun.1.pendingOffers ∧
      (cleanReconnectRun.2.filterMap (SignalObs.offerTo 5)).getLast? = some 1 :=
  have applied : SignalObs.setRemoteDescription 1 ∈
      signals cleanReconnectRun.1 (.sdpAnswer 5 true : SignalEvent Bytes) := by decide
  have offered : 1 ∉ cleanReconnectRun.1.pendingOffers := by decide
  ⟨rfl, rfl, applied, offered,
    @answer_set_on_last_offerer Bytes (fun msg => some msg) cleanReconnect cleanReconnectRun.1
      cleanReconnectRun.2 rfl rfl 5 1 applied offered⟩

end Server
end ElectricMaple
