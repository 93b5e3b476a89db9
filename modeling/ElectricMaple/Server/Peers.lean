import ElectricMaple.Server.Pipeline

/-!
# Tearing down a client's peer

`webrtc_client_disconnected_cb` installs a blocking probe on the tee pad linked to the
peer's `sink_0`, and the probe removes the `webrtcbin` from the bin; nothing releases the
tee's request pad. Two invariants of every reachable pipeline carry the argument: the bin
holds at most one element of each name, and a linked `sink_0` names a tee pad requested
for its element. A disconnect before the peer's offer finds no `sink_0`: it installs no probe,
and the reference it took on the element is never dropped.
-/

namespace ElectricMaple
namespace Server

open EmsGstreamerPipeline

variable {DownMessage : Type} (encode : DownMessage → Option Bytes)

/-! ## What events do to the elements and the tee -/

theorem mem_updateWebrtcbin {webrtcbins : List Webrtcbin} {id : Nat} {f : Webrtcbin → Webrtcbin}
    {webrtcbin' : Webrtcbin} :
    webrtcbin' ∈ updateWebrtcbin webrtcbins id f ↔
      ∃ webrtcbin ∈ webrtcbins, webrtcbin' = if webrtcbin.id = id then f webrtcbin else webrtcbin := by
  simp [updateWebrtcbin, eq_comm]

theorem getWebrtcbinForClient_eq_none {egp : EmsGstreamerPipeline} {clientId : Nat} :
    egp.getWebrtcbinForClient clientId = none ↔
      ∀ webrtcbin ∈ egp.webrtcbins, webrtcbin.clientId = clientId → webrtcbin.inPipeline = false := by
  simp [getWebrtcbinForClient]

theorem getElem?_append_of_eq_some {α : Type} {first second : List α} {index : Nat} {value : α}
    (found : first[index]? = some value) : (first ++ second)[index]? = some value := by
  rw [List.getElem?_append_left (List.getElem?_eq_some_iff.mp found).1, found]

/-- The tee only gains pads. -/
theorem react_teePads (egp : EmsGstreamerPipeline) (event : ServerEvent DownMessage) :
    ∃ added, (react encode egp event).1.teePads = egp.teePads ++ added := by
  by_cases media : event.isMedia
  · rw [react_media_frame encode media]
    exact ⟨[], (List.append_nil _).symm⟩
  cases event with
  | offerCreated id =>
      exact ⟨if egp.hasParent id then [id] else [], by
        by_cases parent : egp.hasParent id <;>
          simp_all [react, onOfferCreated, connectWebrtcToTee, hasParent]⟩
  | _ => first | exact absurd rfl media | exact ⟨[], (List.append_nil _).symm⟩

theorem react_wsClientConnected_webrtcbins (egp : EmsGstreamerPipeline) (clientId : Nat)
    (channelCreated : Bool) :
    (react encode egp (.wsClientConnected clientId channelCreated)).1.webrtcbins =
      egp.webrtcbins ++ [⟨egp.webrtcbins.length, clientId, true, none⟩] :=
  rfl

/-- What an event other than a connect does to the elements: each element after it is one
from before, with its id and client, and in the bin only if it was before. -/
theorem react_webrtcbins (egp : EmsGstreamerPipeline) (event : ServerEvent DownMessage)
    (notConnect : event.isConnect = false) {webrtcbin' : Webrtcbin}
    (mem : webrtcbin' ∈ (react encode egp event).1.webrtcbins) :
    ∃ webrtcbin ∈ egp.webrtcbins, webrtcbin'.id = webrtcbin.id ∧
      webrtcbin'.clientId = webrtcbin.clientId ∧ (webrtcbin'.inPipeline → webrtcbin.inPipeline) := by
  by_cases media : event.isMedia
  · rw [react_media_frame encode media] at mem
    exact ⟨webrtcbin', mem, rfl, rfl, fun inBin => inBin⟩
  cases event with
  | wsClientConnected => simp [ServerEvent.isConnect] at notConnect
  | offerCreated id =>
      by_cases parent : egp.hasParent id
      · simp only [react, onOfferCreated, connectWebrtcToTee, hasParent] at mem parent
        simp only [parent, if_true] at mem
        obtain ⟨webrtcbin, before, rfl⟩ := mem_updateWebrtcbin.mp mem
        exact ⟨webrtcbin, before, by split <;> simp⟩
      · simp only [react, onOfferCreated, connectWebrtcToTee, hasParent] at mem parent
        simp only [parent] at mem
        exact ⟨webrtcbin', mem, rfl, rfl, fun inBin => inBin⟩
  | blockProbeFires pad id =>
      obtain ⟨webrtcbin, before, rfl⟩ := mem_updateWebrtcbin.mp mem
      exact ⟨webrtcbin, before, by split <;> simp⟩
  | _ => first | exact absurd rfl media | exact ⟨webrtcbin', mem, rfl, rfl, fun inBin => inBin⟩

/-! ## Invariants of reachable pipelines -/

/-- The bin holds at most one element of each name `webrtcbin_<client_id>`. -/
def PeersUnique (egp : EmsGstreamerPipeline) : Prop :=
  ∀ webrtcbin ∈ egp.webrtcbins, ∀ other ∈ egp.webrtcbins, webrtcbin.inPipeline →
    other.inPipeline → webrtcbin.clientId = other.clientId → webrtcbin.id = other.id

/-- A linked `sink_0` names a tee pad requested for its element. -/
def SinkLinked (egp : EmsGstreamerPipeline) : Prop :=
  ∀ webrtcbin ∈ egp.webrtcbins, ∀ pad, webrtcbin.sink0 = some pad →
    egp.teePads[pad]? = some webrtcbin.id

theorem react_peersUnique {egp : EmsGstreamerPipeline} (event : ServerEvent DownMessage)
    (defined : event.defined egp) (unique : PeersUnique egp) :
    PeersUnique (react encode egp event).1 := by
  cases connect : event.isConnect with
  | false =>
      intro webrtcbin' mem other' otherMem inBin otherInBin sameClient
      obtain ⟨webrtcbin, before, sameId, client, wasInBin⟩ :=
        react_webrtcbins encode egp event connect mem
      obtain ⟨other, otherBefore, otherId, otherClient, otherWasInBin⟩ :=
        react_webrtcbins encode egp event connect otherMem
      rw [sameId, otherId]
      exact unique webrtcbin before other otherBefore (wasInBin inBin) (otherWasInBin otherInBin)
        (by rw [← client, ← otherClient, sameClient])
  | true =>
      obtain ⟨clientId, channelCreated, rfl⟩ :
          ∃ clientId channelCreated, event = .wsClientConnected clientId channelCreated := by
        cases event <;> simp_all [ServerEvent.isConnect]
      intro webrtcbin mem other otherMem inBin otherInBin sameClient
      rw [react_wsClientConnected_webrtcbins, List.mem_append, List.mem_singleton] at mem otherMem
      have absent := Option.isNone_iff_eq_none.mp defined
      rcases mem with mem | rfl <;> rcases otherMem with otherMem | rfl
      · exact unique webrtcbin mem other otherMem inBin otherInBin sameClient
      · simp [getWebrtcbinForClient_eq_none.mp absent webrtcbin mem sameClient] at inBin
      · simp [getWebrtcbinForClient_eq_none.mp absent other otherMem sameClient.symm] at otherInBin
      · rfl

theorem react_sinkLinked {egp : EmsGstreamerPipeline} (event : ServerEvent DownMessage)
    (linked : SinkLinked egp) : SinkLinked (react encode egp event).1 := by
  by_cases media : event.isMedia
  · rw [react_media_frame encode media]
    exact linked
  cases event with
  | wsClientConnected clientId channelCreated =>
      intro webrtcbin mem pad sink
      rw [react_wsClientConnected_webrtcbins, List.mem_append, List.mem_singleton] at mem
      rcases mem with mem | rfl
      · exact linked webrtcbin mem pad sink
      · cases sink
  | offerCreated id =>
      intro webrtcbin' mem pad sink
      by_cases parent : egp.hasParent id
      · simp only [react, onOfferCreated, connectWebrtcToTee, hasParent] at mem parent ⊢
        simp only [parent, if_true] at mem ⊢
        obtain ⟨webrtcbin, before, rfl⟩ := mem_updateWebrtcbin.mp mem
        by_cases chosen : webrtcbin.id = id
        · simp only [chosen, if_true, Option.some.injEq] at sink ⊢
          rw [← sink]
          exact List.getElem?_concat_length _ _
        · simp only [chosen, if_false] at sink ⊢
          exact getElem?_append_of_eq_some (linked webrtcbin before pad sink)
      · simp only [react, onOfferCreated, connectWebrtcToTee, hasParent] at mem parent ⊢
        simp only [parent] at mem ⊢
        exact linked webrtcbin' mem pad sink
  | blockProbeFires pad id =>
      intro webrtcbin' mem pad' sink
      obtain ⟨webrtcbin, before, rfl⟩ := mem_updateWebrtcbin.mp mem
      by_cases chosen : webrtcbin.id = id
      · simp only [chosen, if_true] at sink ⊢
        exact chosen ▸ linked webrtcbin before pad' sink
      · simp only [chosen, if_false] at sink ⊢
        exact linked webrtcbin before pad' sink
  | _ => first | exact absurd rfl media | exact linked

/-- In every pipeline a run reaches, the bin holds at most one element of each name and each
linked `sink_0` names the tee pad requested for its element. -/
theorem run_peers {events : List (ServerEvent DownMessage)} {egp : EmsGstreamerPipeline}
    {obs : List ServerObs} (ran : run encode emsGstreamerPipelineCreate events = some (egp, obs)) :
    PeersUnique egp ∧ SinkLinked egp :=
  run_preserves encode (fun egp => PeersUnique egp ∧ SinkLinked egp)
    (fun event _ _ _ defined holds => ⟨react_peersUnique encode event defined holds.1,
      react_sinkLinked encode event holds.2⟩)
    (by simp [PeersUnique, SinkLinked, emsGstreamerPipelineCreate]) ran

/-! ## Teardown -/

/-- Every element of the bin named `webrtcbin_<client_id>` has an id that `allowed` admits. -/
def PeersOf (egp : EmsGstreamerPipeline) (clientId : Nat) (allowed : Nat → Prop) : Prop :=
  ∀ webrtcbin ∈ egp.webrtcbins, webrtcbin.clientId = clientId → webrtcbin.inPipeline →
    allowed webrtcbin.id

theorem peersOf_false_iff {egp : EmsGstreamerPipeline} {clientId : Nat} :
    PeersOf egp clientId (fun _ => False) ↔ egp.getWebrtcbinForClient clientId = none := by
  simp [PeersOf, getWebrtcbinForClient_eq_none]

/-- Only a connect of the client puts an element of its name into the bin. -/
theorem react_peersOf {egp : EmsGstreamerPipeline} {event : ServerEvent DownMessage}
    {clientId : Nat} {allowed : Nat → Prop}
    (notReconnect : ∀ channelCreated, event ≠ .wsClientConnected clientId channelCreated)
    (peers : PeersOf egp clientId allowed) : PeersOf (react encode egp event).1 clientId allowed := by
  cases connect : event.isConnect with
  | false =>
      intro webrtcbin' mem client inBin
      obtain ⟨webrtcbin, before, sameId, sameClient, wasInBin⟩ :=
        react_webrtcbins encode egp event connect mem
      rw [sameId]
      exact peers webrtcbin before (sameClient ▸ client) (wasInBin inBin)
  | true =>
      obtain ⟨other, channelCreated, rfl⟩ :
          ∃ other channelCreated, event = .wsClientConnected other channelCreated := by
        cases event <;> simp_all [ServerEvent.isConnect]
      intro webrtcbin mem client inBin
      rw [react_wsClientConnected_webrtcbins, List.mem_append, List.mem_singleton] at mem
      rcases mem with mem | rfl
      · exact peers webrtcbin mem client inBin
      · exact (notReconnect channelCreated (by rw [← client])).elim

theorem run_peersOf {events : List (ServerEvent DownMessage)} {egp egp' : EmsGstreamerPipeline}
    {obs : List ServerObs} {clientId : Nat} {allowed : Nat → Prop}
    (ran : run encode egp events = some (egp', obs))
    (noReconnect : ∀ channelCreated, .wsClientConnected clientId channelCreated ∉ events)
    (peers : PeersOf egp clientId allowed) : PeersOf egp' clientId allowed :=
  run_preserves encode (fun egp => PeersOf egp clientId allowed)
    (fun _ mem _ _ _ peers => react_peersOf encode
      (fun channelCreated same => noReconnect channelCreated (same ▸ mem)) peers) peers ran

/-- The blocking probe removes the element `id`; when it is the only element of the client's
name in the bin, none is left. -/
theorem react_blockProbeFires_peersOf {egp : EmsGstreamerPipeline} {clientId id : Nat} (pad : Nat)
    (peers : PeersOf egp clientId (· = id)) :
    PeersOf (react encode egp (.blockProbeFires pad id)).1 clientId (fun _ => False) := by
  intro webrtcbin' mem client inBin
  obtain ⟨webrtcbin, before, rfl⟩ := mem_updateWebrtcbin.mp mem
  by_cases chosen : webrtcbin.id = id
  · simp [chosen] at inBin
  · simp only [chosen, if_false] at client inBin
    exact chosen (peers webrtcbin before client inBin)

/-- A tee pad stays requested for its element. -/
theorem run_teePad {events : List (ServerEvent DownMessage)} {egp egp' : EmsGstreamerPipeline}
    {obs : List ServerObs} {pad id : Nat} (ran : run encode egp events = some (egp', obs))
    (held : egp.teePads[pad]? = some id) : egp'.teePads[pad]? = some id :=
  run_preserves encode (fun egp => egp.teePads[pad]? = some id)
    (fun event _ egp _ _ held => by
      obtain ⟨added, grown⟩ := react_teePads encode egp event
      rw [grown]
      exact getElem?_append_of_eq_some held) held ran

theorem disconnectProbe_eq_some {egp : EmsGstreamerPipeline} {clientId pad id : Nat}
    (probe : egp.disconnectProbe clientId = some (pad, id)) :
    ∃ webrtcbin ∈ egp.webrtcbins, webrtcbin.id = id ∧ webrtcbin.clientId = clientId ∧
      webrtcbin.inPipeline ∧ webrtcbin.sink0 = some pad := by
  simp only [disconnectProbe, Option.bind_eq_some, Option.map_eq_some', Prod.mk.injEq] at probe
  obtain ⟨webrtcbin, found, pad', sink, rfl, rfl⟩ := probe
  have named := List.find?_some found
  simp only [Bool.and_eq_true, beq_iff_eq] at named
  exact ⟨webrtcbin, List.mem_of_find?_eq_some found, rfl, named.1, named.2, sink⟩

/-- Once a client's disconnect has found its peer with `sink_0` linked and the blocking
probe it installed has fired, the bin holds no element named `webrtcbin_<client_id>` until
the client connects again; the tee still holds the pad requested for the removed peer. -/
theorem peer_removed_once_blocking_probe_fires {pre mid post : List (ServerEvent DownMessage)}
    {clientId pad id : Nat} {before after : EmsGstreamerPipeline}
    {obsBefore obsAfter : List ServerObs}
    (ranBefore : run encode emsGstreamerPipelineCreate pre = some (before, obsBefore))
    (probe : before.disconnectProbe clientId = some (pad, id))
    (ranAfter : run encode before
      ((.wsClientDisconnected clientId :: mid) ++ .blockProbeFires pad id :: post) =
        some (after, obsAfter))
    (noReconnect : ∀ channelCreated, .wsClientConnected clientId channelCreated ∉ mid ++ post) :
    after.getWebrtcbinForClient clientId = none ∧ after.teePads[pad]? = some id := by
  obtain ⟨unique, linked⟩ := run_peers encode ranBefore
  obtain ⟨webrtcbin, mem, rfl, client, inBin, sink⟩ := disconnectProbe_eq_some probe
  have onlyPeer : PeersOf before clientId (· = webrtcbin.id) :=
    fun other otherMem otherClient otherInBin =>
      unique other otherMem webrtcbin mem otherInBin inBin (otherClient.trans client.symm)
  obtain ⟨fired, obsFirst, obsRest, ranFirst, ranRest, -⟩ := (run_append_eq_some encode).mp ranAfter
  obtain ⟨removed, obsFire, obsPost, stepFire, ranPost, -⟩ := (run_cons_eq_some encode).mp ranRest
  obtain ⟨-, -, reactedFire⟩ := (step_eq_some encode).mp stepFire
  have beforeFire := run_peersOf encode ranFirst (fun channelCreated mem => by
    rcases List.mem_cons.mp mem with same | inMid
    · cases same
    · exact noReconnect channelCreated (List.mem_append_left _ inMid)) onlyPeer
  have afterFire := react_blockProbeFires_peersOf encode pad beforeFire
  rw [reactedFire] at afterFire
  exact ⟨peersOf_false_iff.mp (run_peersOf encode ranPost
      (fun channelCreated mem => noReconnect channelCreated (List.mem_append_right _ mem)) afterFire),
    run_teePad encode ranAfter (linked webrtcbin mem pad sink)⟩

/-- The pipeline after client `0` connected and its offer linked tee pad `0` to its peer. -/
def linkedClientZero : EmsGstreamerPipeline where
  dataChannel := some 0
  timeoutSrcId := 0
  downMsgBytes := .null
  downMsgPending := none
  webrtcbins := [⟨0, 0, true, some 0⟩]
  teePads := [0]
  payloadProbes := 1
  padPush := none
  pendingOffers := []
  blockProbes := []
  webrtcbinRefs := []
  channels := [.connecting]
  sources := []
  nextSourceId := 1
  queue := []
  framesPushed := 0

/-- The same pipeline once client `0` disconnected and the blocking probe fired. -/
def removedClientZero : EmsGstreamerPipeline :=
  { linkedClientZero with webrtcbins := [⟨0, 0, false, some 0⟩] }

/-- Client `0` connects, its offer links tee pad `0`, it disconnects and the probe fires. -/
theorem peer_removed_once_blocking_probe_fires_client_zero :
    run (fun msg : Bytes => some msg) emsGstreamerPipelineCreate
        [.wsClientConnected 0 true, .offerCreated 0] = some (linkedClientZero, []) ∧
      linkedClientZero.disconnectProbe 0 = some (0, 0) ∧
      run (fun msg : Bytes => some msg) linkedClientZero
          ((.wsClientDisconnected 0 :: []) ++ .blockProbeFires 0 0 :: []) =
        some (removedClientZero, []) ∧
      (∀ channelCreated, ServerEvent.wsClientConnected 0 channelCreated ∉
        ([] : List (ServerEvent Bytes)) ++ []) ∧
      removedClientZero.getWebrtcbinForClient 0 = none ∧ removedClientZero.teePads[0]? = some 0 :=
  ⟨by decide, rfl, by decide, by simp,
    @peer_removed_once_blocking_probe_fires Bytes (fun msg => some msg)
      [.wsClientConnected 0 true, .offerCreated 0] [] [] 0 0 0 linkedClientZero removedClientZero
      [] [] (by decide) rfl (by decide) (by simp)⟩

/-- Client `0` connects, its offer links tee pad `0`, it disconnects and the blocking probe
fires: its peer has left the bin, but the tee still holds pad `0`, requested for that peer. -/
theorem teePad_of_client_kept_after_teardown :
    (run (fun msg : Bytes => some msg) emsGstreamerPipelineCreate
        [.wsClientConnected 0 true, .offerCreated 0, .wsClientDisconnected 0,
          .blockProbeFires 0 0]).map (fun result => (result.1.webrtcbins, result.1.teePads)) =
      some ([⟨0, 0, false, some 0⟩], [0]) := by
  decide

/-! ## A disconnect before the offer

Until the `create-offer` promise of a client's element replies, the element has no `sink_0`:
a disconnect then adds no blocking probe, so nothing removes the element, the late offer
still links it to a new tee pad, and the reference the disconnect took is never dropped. -/

/-- The references on element `id` that the disconnect callbacks took and no blocking probe
was given: nothing drops them. -/
def leakedRefs (egp : EmsGstreamerPipeline) (id : Nat) : Nat :=
  egp.webrtcbinRefs.count id - egp.blockProbes.countP (·.2 == id)

/-- Each blocking probe holds a reference on the element it removes. -/
def ProbesHoldRefs (egp : EmsGstreamerPipeline) : Prop :=
  ∀ id, egp.blockProbes.countP (·.2 == id) ≤ egp.webrtcbinRefs.count id

theorem countP_erase_of_mem {α : Type} [BEq α] [LawfulBEq α] {l : List α} {x : α} (p : α → Bool)
    (mem : x ∈ l) : (l.erase x).countP p + (if p x then 1 else 0) = l.countP p := by
  induction l with
  | nil => cases mem
  | cons y l inductionHypothesis =>
      rw [List.erase_cons]
      by_cases same : y = x
      · subst same
        simp [List.countP_cons]
      · have later : x ∈ l := by simpa [Ne.symm same] using mem
        simp only [same, beq_iff_eq, if_false, List.countP_cons, ← inductionHypothesis later]
        omega

/-- No event drops a reference no probe was given: a disconnect adds the reference it took
and gives it to the probe it adds, if any; a firing probe drops the reference it holds. -/
theorem react_refs {egp : EmsGstreamerPipeline} {event : ServerEvent DownMessage}
    (enabled : event.enabled egp) (held : ProbesHoldRefs egp) (id : Nat) :
    (react encode egp event).1.blockProbes.countP (·.2 == id) ≤
        (react encode egp event).1.webrtcbinRefs.count id ∧
      leakedRefs egp id ≤ leakedRefs (react encode egp event).1 id := by
  unfold leakedRefs
  have before := held id
  by_cases media : event.isMedia
  · rw [react_media_frame encode media]
    exact ⟨before, le_refl _⟩
  cases event with
  | wsClientDisconnected clientId =>
      simp only [react, webrtcClientDisconnectedCb, disconnectProbe, List.count_append,
        List.countP_append]
      cases egp.getWebrtcbinForClient clientId with
      | none => simpa using before
      | some webrtcbin =>
          obtain ⟨found, -, -, sink0⟩ := webrtcbin
          cases sink0 <;> by_cases same : found = id <;> simp [same] <;> omega
  | blockProbeFires pad fired =>
      have mem : (pad, fired) ∈ egp.blockProbes := by simpa [ServerEvent.enabled] using enabled
      have erased := countP_erase_of_mem (·.2 == id) mem
      simp only [react, removeWebrtcbinProbeCb, List.count_erase]
      by_cases same : fired = id <;> simp [same] at erased ⊢ <;> omega
  | _ => first | exact absurd rfl media | exact ⟨before, le_refl _⟩

/-- Along every run from a pipeline whose probes hold their references, they still do, and the
references on an element that no probe holds never get fewer. -/
theorem run_refs {events : List (ServerEvent DownMessage)} {egp egp' : EmsGstreamerPipeline}
    {obs : List ServerObs} (ran : run encode egp events = some (egp', obs))
    (held : ProbesHoldRefs egp) (id : Nat) :
    ProbesHoldRefs egp' ∧ leakedRefs egp id ≤ leakedRefs egp' id :=
  run_preserves encode (fun egp' => ProbesHoldRefs egp' ∧ leakedRefs egp id ≤ leakedRefs egp' id)
    (fun _ _ _ enabled _ holds => ⟨fun other => (react_refs encode enabled holds.1 other).1,
      holds.2.trans (react_refs encode enabled holds.1 id).2⟩) ⟨held, le_refl _⟩ ran

/-- When a client disconnects while its element is in the bin without `sink_0`, because its
offer has not been created, the disconnect adds no blocking probe, and the reference it took
on the element is never dropped, whatever events follow. -/
theorem disconnect_before_offer_leaks_ref {pre post : List (ServerEvent DownMessage)}
    {clientId : Nat} {webrtcbin : Webrtcbin} {before after : EmsGstreamerPipeline}
    {obsBefore obsAfter : List ServerObs}
    (ranBefore : run encode emsGstreamerPipelineCreate pre = some (before, obsBefore))
    (found : before.getWebrtcbinForClient clientId = some webrtcbin)
    (unlinked : webrtcbin.sink0 = none)
    (ranAfter : run encode before (.wsClientDisconnected clientId :: post) = some (after, obsAfter)) :
    before.disconnectProbe clientId = none ∧
      leakedRefs before webrtcbin.id < leakedRefs after webrtcbin.id := by
  have held : ProbesHoldRefs before :=
    (run_refs encode ranBefore (fun _ => by simp [emsGstreamerPipelineCreate]) 0).1
  have unprobed : before.disconnectProbe clientId = none := by
    simp [disconnectProbe, found, unlinked]
  obtain ⟨disconnected, _, _, stepped, ranPost, -⟩ := (run_cons_eq_some encode).mp ranAfter
  obtain ⟨-, -, reacted⟩ := (step_eq_some encode).mp stepped
  have reached : (react encode before (.wsClientDisconnected clientId)).1 = disconnected := by
    rw [reacted]
  have grown : leakedRefs before webrtcbin.id < leakedRefs disconnected webrtcbin.id := by
    have probes := held webrtcbin.id
    rw [← reached]
    simp [leakedRefs, react, webrtcClientDisconnectedCb, found, unprobed]
    omega
  refine ⟨unprobed, lt_of_lt_of_le grown (run_refs encode ranPost ?_ webrtcbin.id).2⟩
  rw [← reached]
  exact fun id => (react_refs encode (by rfl) held id).1

/-- The pipeline after client `0` connected, before its offer is created. -/
def connectedClientZero : EmsGstreamerPipeline :=
  { linkedClientZero with webrtcbins := [⟨0, 0, true, none⟩], teePads := [], pendingOffers := [0] }

/-- Client `0` connects and disconnects before its offer is created: no probe is added, the
late offer links the element, still in the bin, to tee pad `0`, and the reference the
disconnect took stays taken. -/
theorem disconnect_before_offer_leaks_ref_client_zero :
    run (fun msg : Bytes => some msg) emsGstreamerPipelineCreate [.wsClientConnected 0 true] =
        some (connectedClientZero, []) ∧
      connectedClientZero.getWebrtcbinForClient 0 = some ⟨0, 0, true, none⟩ ∧
      run (fun msg : Bytes => some msg) connectedClientZero
          [.wsClientDisconnected 0, .offerCreated 0] =
        some ({ linkedClientZero with webrtcbinRefs := [0] }, []) ∧
      connectedClientZero.disconnectProbe 0 = none ∧
      leakedRefs connectedClientZero 0 < leakedRefs { linkedClientZero with webrtcbinRefs := [0] } 0 :=
  have connected : run (fun msg : Bytes => some msg) emsGstreamerPipelineCreate
      [.wsClientConnected 0 true] = some (connectedClientZero, []) := by decide
  have late : run (fun msg : Bytes => some msg) connectedClientZero
      [.wsClientDisconnected 0, .offerCreated 0] =
        some ({ linkedClientZero with webrtcbinRefs := [0] }, []) := by decide
  ⟨connected, rfl, late, @disconnect_before_offer_leaks_ref Bytes (fun msg => some msg)
    [.wsClientConnected 0 true] [.offerCreated 0] 0 ⟨0, 0, true, none⟩ connectedClientZero
    { linkedClientZero with webrtcbinRefs := [0] } [] [] connected rfl rfl late⟩

end Server
end ElectricMaple
