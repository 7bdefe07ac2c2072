import Mathlib
import TruthFingerprint.Lib.FifoBroadcast
import TruthFingerprint.Identity
import TruthFingerprint.Scada.OpcUaService

/-!
# Replicated views of the edges

Every edge records its own observation in its view and publishes it to the others, which record what
they consume. The transport may deliver at any time and in any order, as long as one edge receives
the messages of another in the order of their publication. The passive relay is the transport that
delivers at once. When everything has been delivered, all edges have the same view
(`views_converge`).
-/

namespace TruthFingerprint.EdgeNodes

open Scada (Sensor)

/-! ## Edges -/

/-- A payload: the tag of its device, and what the edges pass on without reading it. -/
structure RawHartPayload (D : Type) where
  tag : Text
  data : D
deriving DecidableEq

structure EdgeDeviceConfig where
  edgeId : Text
  sensorName : Sensor
  tag : Text
deriving DecidableEq

/-- `EDGE_DEVICE_CONFIGS` -/
def edgeDeviceConfigs : List EdgeDeviceConfig :=
  [⟨text "edge-1", .temperature, text "TIT-101"⟩, ⟨text "edge-2", .pressure, text "PIT-101"⟩,
    ⟨text "edge-3", .rpm, text "RIT-101"⟩]

/-- `SENSOR_BY_TAG_PREFIX` -/
def sensorByTagPrefix : List (Text × Sensor) :=
  [(text "T", .temperature), (text "P", .pressure), (text "R", .rpm)]

/-- The upper case of an ASCII letter. No other character has a key of the table as its upper
case. -/
def upper (c : CodePoint) : CodePoint :=
  if 0x61 ≤ c.val ∧ c.val ≤ 0x7a then ⟨c.val - 0x20, by omega⟩ else c

def sensorOfTag (tag : Text) : Option Sensor :=
  sensorByTagPrefix.lookup ((tag.take 1).map upper)

variable {ι D : Type}

/-- `infer_sensor_name`, which raises a `KeyError` for another prefix -/
def inferSensorName (payload : RawHartPayload D) : Option Sensor := sensorOfTag payload.tag

/-- The view of an edge: `EdgeLocalReplicatedState.observations` -/
abbrev Observations (D : Type) := Sensor → Option (RawHartPayload D)

def updateFromPayload (observations : Observations D) (payload : RawHartPayload D) :
    Option (Observations D) := do
  let sensorName ← inferSensorName payload
  some (Function.update observations sensorName (some payload))

/-- What an edge changes while it publishes and consumes. -/
structure EdgeAcquisitionService (D : Type) where
  observations : Observations D
  publishedObservationCount : Nat
  peerObservationCount : Nat

namespace EdgeAcquisitionService

def initial : EdgeAcquisitionService D := ⟨fun _ => none, 0, 0⟩

/-- What `publish_local_observation` does before it hands the payload to the transport. -/
def recordLocal (edge : EdgeAcquisitionService D) (payload : RawHartPayload D) :
    Option (EdgeAcquisitionService D) := do
  let observations ← updateFromPayload edge.observations payload
  some { edge with
    observations := observations
    publishedObservationCount := edge.publishedObservationCount + 1 }

def consumePeerObservation (edge : EdgeAcquisitionService D) (payload : RawHartPayload D) :
    Option (EdgeAcquisitionService D) := do
  let observations ← updateFromPayload edge.observations payload
  some { edge with
    observations := observations
    peerObservationCount := edge.peerObservationCount + 1 }

end EdgeAcquisitionService

/-! ## The network -/

/-- Edges that are told apart by their identifiers, and whose tags say what they measure. -/
structure Deployment (ι : Type) where
  config : ι → EdgeDeviceConfig
  edgeId_injective : Function.Injective fun i => (config i).edgeId
  inferred : ∀ i, sensorOfTag (config i).tag = some (config i).sensorName

structure RelayMessage (D : Type) where
  publisherId : Text
  payload : RawHartPayload D

structure Network (ι D : Type) where
  edges : ι → EdgeAcquisitionService D
  /-- Recorded by the call of `publish_local_observation` that is under way. -/
  publishing : ι → Option (RawHartPayload D)
  /-- Published by one edge and not yet consumed by another, in the order of publication. -/
  inFlight : ι → ι → List (RawHartPayload D)
  /-- Everything that the transport has accepted. -/
  messages : List (RelayMessage D)

namespace Network

variable (n : Network ι D) (d : Deployment ι)

def start : Network ι D := ⟨fun _ => .initial, fun _ => none, fun _ _ => [], []⟩

/-- The payloads that an edge has published. -/
def publishedBy (i : ι) : List (RawHartPayload D) :=
  (n.messages.filter fun message => message.publisherId = (d.config i).edgeId).map
    RelayMessage.payload

/-- Every message has been delivered. -/
def AllDelivered : Prop := (∀ i, n.publishing i = none) ∧ ∀ i j, n.inFlight i j = []

variable [DecidableEq ι]

/-- A message for every subscriber except its publisher -/
def broadcast (i : ι) (payload : RawHartPayload D) : ι → ι → List (RawHartPayload D) :=
  fun i' j =>
    if i' = i ∧ (d.config j).edgeId ≠ (d.config i).edgeId then n.inFlight i' j ++ [payload]
    else n.inFlight i' j

def consume (i j : ι) (rest : List (RawHartPayload D)) : ι → ι → List (RawHartPayload D) :=
  Function.update n.inFlight i (Function.update (n.inFlight i) j rest)

end Network

variable [DecidableEq ι] {d : Deployment ι}

/-- The payloads of an edge carry its tag. Between the two halves of a publication the edge may
consume what others have published. -/
inductive Step (d : Deployment ι) : Network ι D → Network ι D → Prop
  | record {n : Network ι D} {i : ι} {payload : RawHartPayload D}
    {edge : EdgeAcquisitionService D} (hidle : n.publishing i = none)
    (htag : payload.tag = (d.config i).tag) (hedge : (n.edges i).recordLocal payload = some edge) :
    Step d n
      { n with
        edges := Function.update n.edges i edge
        publishing := Function.update n.publishing i (some payload) }
  | publish {n : Network ι D} {i : ι} {payload : RawHartPayload D}
    (hpublishing : n.publishing i = some payload) :
    Step d n
      { n with
        publishing := Function.update n.publishing i none
        inFlight := n.broadcast d i payload
        messages := n.messages ++ [⟨(d.config i).edgeId, payload⟩] }
  | deliver {n : Network ι D} {i j : ι} {payload : RawHartPayload D}
    {rest : List (RawHartPayload D)} {edge : EdgeAcquisitionService D}
    (hinFlight : n.inFlight i j = payload :: rest)
    (hedge : (n.edges j).consumePeerObservation payload = some edge) :
    Step d n
      { n with edges := Function.update n.edges j edge, inFlight := n.consume i j rest }

abbrev Run (d : Deployment ι) : Network ι D → Network ι D → Prop := Relation.ReflTransGen (Step d)

/-! ## Views that converge -/

/-- The network as replicas that broadcast: a sensor that cannot be inferred is a key that nobody
owns. -/
def Network.replicas (n : Network ι D) (d : Deployment ι) :
    FifoBroadcast.Net ι (Option Sensor) (RawHartPayload D) where
  views j sensorName := sensorName.bind (n.edges j).observations
  pending := n.publishing
  queue := n.inFlight
  sent := n.publishedBy d

def Deployment.owned (d : Deployment ι) (i : ι) : Option Sensor := some (d.config i).sensorName

theorem updateFromPayload_eq_some {observations observations' : Observations D}
    {payload : RawHartPayload D} (h : updateFromPayload observations payload = some observations') :
    ∃ sensorName, inferSensorName payload = some sensorName ∧
      observations' = Function.update observations sensorName (some payload) := by
  rw [updateFromPayload, Option.bind_eq_bind, Option.bind_eq_some_iff] at h
  obtain ⟨sensorName, hsensor, h⟩ := h
  exact ⟨sensorName, hsensor, (Option.some.inj h).symm⟩

namespace EdgeAcquisitionService

variable {edge edge' : EdgeAcquisitionService D} {payload : RawHartPayload D}

theorem observations_recordLocal (h : edge.recordLocal payload = some edge') :
    updateFromPayload edge.observations payload = some edge'.observations := by
  rw [recordLocal, Option.bind_eq_bind, Option.bind_eq_some_iff] at h
  obtain ⟨observations, hobservations, h⟩ := h
  obtain rfl := Option.some.inj h
  exact hobservations

theorem observations_consumePeerObservation (h : edge.consumePeerObservation payload = some edge') :
    updateFromPayload edge.observations payload = some edge'.observations := by
  rw [consumePeerObservation, Option.bind_eq_bind, Option.bind_eq_some_iff] at h
  obtain ⟨observations, hobservations, h⟩ := h
  obtain rfl := Option.some.inj h
  exact hobservations

end EdgeAcquisitionService

namespace Network

variable {n : Network ι D} {i j : ι} {payload : RawHartPayload D} {edge : EdgeAcquisitionService D}

/-- An edge that has updated its view has noted the payload. -/
theorem views_update (hedge : updateFromPayload (n.edges j).observations payload =
      some edge.observations) :
    (fun j' (sensorName : Option Sensor) =>
      sensorName.bind (Function.update n.edges j edge j').observations) =
      (n.replicas d).note inferSensorName j payload := by
  obtain ⟨sensorName, hsensor, hobservations⟩ := updateFromPayload_eq_some hedge
  funext j' key
  by_cases hj : j' = j
  · obtain rfl := hj
    rw [Function.update_self, hobservations]
    by_cases hkey : key = some sensorName
    · obtain rfl := hkey
      rw [Option.bind_some, Function.update_self, ← hsensor, FifoBroadcast.Net.note_self]
    · rw [FifoBroadcast.Net.note_of_key_ne _ _ (hsensor ▸ hkey)]
      cases key with
      | none => rfl
      | some other =>
        have hother : other ≠ sensorName := fun heq => hkey (heq ▸ rfl)
        exact Function.update_of_ne hother _ _
  · rw [Function.update_of_ne hj, FifoBroadcast.Net.note_of_ne _ _ hj]
    rfl

theorem publishedBy_append (n : Network ι D) (d : Deployment ι) (i : ι)
    (payload : RawHartPayload D) :
    Network.publishedBy { n with messages := n.messages ++ [⟨(d.config i).edgeId, payload⟩] } d =
      Function.update (n.replicas d).sent i ((n.replicas d).sent i ++ [payload]) := by
  funext i'
  by_cases hi : i' = i
  · obtain rfl := hi
    simp [publishedBy, replicas]
  · have hid : (d.config i).edgeId ≠ (d.config i').edgeId := d.edgeId_injective.ne (Ne.symm hi)
    simp [publishedBy, replicas, hi, hid]

theorem broadcast_eq_enqueue (n : Network ι D) (d : Deployment ι) (i : ι)
    (payload : RawHartPayload D) : n.broadcast d i payload = (n.replicas d).enqueue i payload := by
  funext i' j
  simp only [broadcast, FifoBroadcast.Net.enqueue, d.edgeId_injective.ne_iff' rfl]
  rfl

end Network

/-- The network takes the steps of replicas that broadcast. -/
theorem replicas_step {n n' : Network ι D} (h : Step d n n') :
    FifoBroadcast.Step inferSensorName d.owned (n.replicas d) (n'.replicas d) := by
  cases h with
  | @record i payload edge hidle htag hedge =>
    have hkey : inferSensorName payload = d.owned i := by
      rw [inferSensorName, htag, d.inferred, Deployment.owned]
    have hnote := FifoBroadcast.Step.note (n := n.replicas d) hidle hkey
    rw [← Network.views_update (EdgeAcquisitionService.observations_recordLocal hedge)] at hnote
    exact hnote
  | @publish i payload hpublishing =>
    have hsend : FifoBroadcast.Step inferSensorName d.owned (n.replicas d) _ :=
      .send (n := n.replicas d) hpublishing
    rw [← n.broadcast_eq_enqueue, ← n.publishedBy_append] at hsend
    exact hsend
  | @deliver i j payload rest edge hinFlight hedge =>
    have hdeliver : FifoBroadcast.Step inferSensorName d.owned (n.replicas d) _ :=
      .deliver (n := n.replicas d) hinFlight
    rw [← Network.views_update (EdgeAcquisitionService.observations_consumePeerObservation hedge)]
      at hdeliver
    exact hdeliver

theorem replicas_run {n n' : Network ι D} (h : Run d n n') :
    Relation.ReflTransGen (FifoBroadcast.Step inferSensorName d.owned) (n.replicas d)
      (n'.replicas d) :=
  h.lift (Network.replicas · d) fun _ _ => replicas_step

omit [DecidableEq ι] in
theorem owned_injective (hdistinct : Function.Injective fun i => (d.config i).sensorName) :
    Function.Injective d.owned :=
  (Option.some_injective _).comp hdistinct

/-- From the start on, the replicas of a network keep their invariant. -/
theorem invariant_of_run (hdistinct : Function.Injective fun i => (d.config i).sensorName)
    {n : Network ι D} (h : Run d .start n) :
    FifoBroadcast.Invariant inferSensorName d.owned (n.replicas d) := by
  have hstart : FifoBroadcast.Invariant inferSensorName d.owned
      (Network.replicas (Network.start : Network ι D) d) := by
    have heq : Network.replicas (Network.start : Network ι D) d = FifoBroadcast.start := by
      simp only [Network.replicas, Network.start, FifoBroadcast.start]
      congr
      funext j sensorName
      cases sensorName <;> rfl
    rw [heq]
    exact FifoBroadcast.invariant_start
  exact hstart.run (owned_injective hdistinct) (replicas_run h)

/-- When edges measure different things and every message has been delivered, all edges have the
same observation of every sensor: the last payload that the edge of the sensor has published, and
none where no edge measures it. -/
theorem views_converge (hdistinct : Function.Injective fun i => (d.config i).sensorName)
    {n : Network ι D} (h : Run d .start n) (hdelivered : n.AllDelivered) (j : ι) :
    (∀ i, (n.edges j).observations (d.config i).sensorName = (n.publishedBy d i).getLast?) ∧
      (∀ sensorName, (∀ i, (d.config i).sensorName ≠ sensorName) →
        (n.edges j).observations sensorName = none) ∧
      ∀ j', (n.edges j').observations = (n.edges j).observations := by
  have hinvariant := invariant_of_run hdistinct h
  have hmeasured (j i : ι) :
      (n.edges j).observations (d.config i).sensorName = (n.publishedBy d i).getLast? :=
    hinvariant.settled (hdelivered.1 i) (hdelivered.2 i j)
  have hunmeasured (j : ι) (sensorName : Sensor)
      (hnone : ∀ i, (d.config i).sensorName ≠ sensorName) :
      (n.edges j).observations sensorName = none :=
    hinvariant.unowned j (some sensorName) fun i heq => hnone i (Option.some.inj heq)
  refine ⟨hmeasured j, hunmeasured j, fun j' => funext fun sensorName => ?_⟩
  by_cases hsome : ∃ i, (d.config i).sensorName = sensorName
  · obtain ⟨i, rfl⟩ := hsome
    rw [hmeasured, hmeasured]
  · have hnone := not_exists.mp hsome
    rw [hunmeasured j' _ hnone, hunmeasured j _ hnone]

/-- Nobody fails to infer the sensor of a message that is on its way. -/
theorem consume_isSome (hdistinct : Function.Injective fun i => (d.config i).sensorName)
    {n : Network ι D} (h : Run d .start n) {i j : ι} {payload : RawHartPayload D}
    (hpayload : payload ∈ n.inFlight i j) :
    ((n.edges j).consumePeerObservation payload).isSome := by
  have hinvariant := invariant_of_run hdistinct h
  have hne : i ≠ j := by
    rintro rfl
    have hself : n.inFlight i i = [] := hinvariant.noSelf i
    rw [hself] at hpayload
    cases hpayload
  obtain ⟨received, hreceived, -⟩ := hinvariant.arrived i j
  have hkey : inferSensorName payload = d.owned i := by
    refine hinvariant.keyed i payload (hreceived ▸ List.mem_append_right _ ?_)
    rw [FifoBroadcast.Net.outstanding, if_neg hne]
    exact List.mem_append_left _ hpayload
  rw [EdgeAcquisitionService.consumePeerObservation, updateFromPayload, hkey]
  rfl

/-! ## The passive relay -/

/-- The edges and the relay that they are attached to, in the order of their subscriptions. -/
structure RelaySystem (ι D : Type) where
  edges : ι → EdgeAcquisitionService D
  subscribers : List ι
  messages : List (RelayMessage D)

/-- The callback of one subscriber -/
def relayTo (d : Deployment ι) (i : ι) (payload : RawHartPayload D)
    (edges : ι → EdgeAcquisitionService D) (j : ι) : Option (ι → EdgeAcquisitionService D) :=
  if (d.config j).edgeId = (d.config i).edgeId then some edges
  else do
    let edge ← (edges j).consumePeerObservation payload
    some (Function.update edges j edge)

namespace RelaySystem

/-- `publish_local_observation` over `PassiveMqttRelay.publish` -/
def publishLocalObservation (d : Deployment ι) (s : RelaySystem ι D) (i : ι)
    (payload : RawHartPayload D) : Option (RelaySystem ι D) := do
  let edge ← (s.edges i).recordLocal payload
  let edges ← s.subscribers.foldlM (relayTo d i payload) (Function.update s.edges i edge)
  some { s with edges := edges, messages := s.messages ++ [⟨(d.config i).edgeId, payload⟩] }

def attached (subscribers : List ι) : RelaySystem ι D := ⟨fun _ => .initial, subscribers, []⟩

/-- Between two calls nothing is in flight. -/
def network (s : RelaySystem ι D) : Network ι D :=
  ⟨s.edges, fun _ => none, fun _ _ => [], s.messages⟩

omit [DecidableEq ι] in
theorem allDelivered_network (s : RelaySystem ι D) : s.network.AllDelivered :=
  ⟨fun _ => rfl, fun _ _ => rfl⟩

/-- What is in flight while the relay calls its subscribers -/
def waiting (i : ι) (payload : RawHartPayload D) (todo : List ι) :
    ι → ι → List (RawHartPayload D) :=
  fun i' j => if i' = i ∧ j ≠ i ∧ j ∈ todo then [payload] else []

variable {i : ι} {payload : RawHartPayload D}

/-- The relay calls one subscriber after the other. -/
theorem run_relayTo {todo : List ι} (hnodup : todo.Nodup)
    {edges edges' : ι → EdgeAcquisitionService D} {messages : List (RelayMessage D)}
    (h : todo.foldlM (relayTo d i payload) edges = some edges') :
    Run d ⟨edges, fun _ => none, waiting i payload todo, messages⟩
      ⟨edges', fun _ => none, fun _ _ => [], messages⟩ := by
  induction todo generalizing edges with
  | nil =>
    obtain rfl := Option.some.inj h
    have hwaiting : waiting i payload [] = fun _ _ => [] := by
      funext i' j
      simp [waiting]
    rw [hwaiting]
  | cons j todo ih =>
    obtain ⟨hj, hnodup⟩ := List.nodup_cons.mp hnodup
    rw [List.foldlM_cons, Option.bind_eq_bind, Option.bind_eq_some_iff] at h
    obtain ⟨edges₁, hrelay, h⟩ := h
    rw [relayTo] at hrelay
    split_ifs at hrelay with hid
    · obtain rfl := Option.some.inj hrelay
      obtain rfl := d.edgeId_injective hid
      have hwaiting : waiting j payload (j :: todo) = waiting j payload todo := by
        funext i' j'
        refine if_congr (and_congr_right fun _ => and_congr_right fun hne => ?_) rfl rfl
        rw [List.mem_cons, or_iff_right hne]
      rw [hwaiting]
      exact ih hnodup h
    · obtain ⟨edge, hedge, hrelay⟩ := Option.bind_eq_some_iff.mp hrelay
      obtain rfl := Option.some.inj hrelay
      have hne : j ≠ i := fun heq => hid (heq ▸ rfl)
      have hwaiting : Network.consume ⟨edges, fun _ => none, waiting i payload (j :: todo),
          messages⟩ i j [] = waiting i payload todo := by
        funext i' j'
        by_cases hij : i' = i
        · obtain rfl := hij
          by_cases hj' : j' = j
          · obtain rfl := hj'
            simp [Network.consume, waiting, hj]
          · simp [Network.consume, waiting, hj']
        · simp [Network.consume, waiting, hij]
      have hinFlight : waiting i payload (j :: todo) i j = payload :: [] :=
        if_pos ⟨rfl, hne, List.mem_cons_self⟩
      refine .head (.deliver (n := ⟨edges, _, _, messages⟩) hinFlight hedge) ?_
      rw [hwaiting]
      exact ih hnodup h

/-- A call is a run of the network that records, publishes and delivers at once. -/
theorem run_publishLocalObservation {s s' : RelaySystem ι D} (hnodup : s.subscribers.Nodup)
    (hall : ∀ j, j ∈ s.subscribers) (htag : payload.tag = (d.config i).tag)
    (h : s.publishLocalObservation d i payload = some s') : Run d s.network s'.network := by
  rw [publishLocalObservation, Option.bind_eq_bind, Option.bind_eq_some_iff] at h
  obtain ⟨edge, hedge, h⟩ := h
  obtain ⟨edges, hedges, h⟩ := Option.bind_eq_some_iff.mp h
  obtain rfl := Option.some.inj h
  refine .head (.record (i := i) rfl htag hedge)
    (.head (.publish (i := i) (Function.update_self i (some payload) s.network.publishing)) ?_)
  have hidle : Function.update (Function.update s.network.publishing i (some payload)) i none =
      fun _ => none := by
    rw [Function.update_idem]
    exact Function.update_eq_self i s.network.publishing
  have hwaiting : Network.broadcast { s.network with
      edges := Function.update s.network.edges i edge
      publishing := Function.update s.network.publishing i (some payload) } d i payload =
        waiting i payload s.subscribers := by
    funext i' j
    refine if_congr (and_congr_right fun _ => ?_) rfl rfl
    exact ⟨fun hid => ⟨fun heq => hid (heq ▸ rfl), hall j⟩, fun hne => d.edgeId_injective.ne hne.1⟩
  dsimp only
  rw [hidle, hwaiting]
  exact run_relayTo hnodup hedges

/-- Any number of calls, one after the other. -/
theorem run_calls (calls : List (ι × RawHartPayload D)) {s s' : RelaySystem ι D}
    (hnodup : s.subscribers.Nodup) (hall : ∀ j, j ∈ s.subscribers)
    (htags : ∀ call ∈ calls, call.2.tag = (d.config call.1).tag)
    (h : calls.foldlM (fun s call => s.publishLocalObservation d call.1 call.2) s = some s') :
    Run d s.network s'.network := by
  induction calls generalizing s with
  | nil =>
    obtain rfl := Option.some.inj h
    exact .refl
  | cons call calls ih =>
    rw [List.foldlM_cons, Option.bind_eq_bind, Option.bind_eq_some_iff] at h
    obtain ⟨s₁, hcall, h⟩ := h
    have hsubscribers : s₁.subscribers = s.subscribers := by
      rw [publishLocalObservation, Option.bind_eq_bind, Option.bind_eq_some_iff] at hcall
      obtain ⟨edge, -, hcall⟩ := hcall
      obtain ⟨edges, -, hcall⟩ := Option.bind_eq_some_iff.mp hcall
      obtain rfl := Option.some.inj hcall
      rfl
    exact (run_publishLocalObservation hnodup hall (htags call List.mem_cons_self) hcall).trans
      (ih (hsubscribers ▸ hnodup) (hsubscribers ▸ hall)
        (fun call' hcall' => htags call' (List.mem_cons_of_mem _ hcall')) h)

end RelaySystem

/-! ## The edges of the prototype -/

/-- `EDGE_DEVICE_CONFIGS`, with tags that say what they measure -/
def prototype : Deployment (Fin 3) where
  config := edgeDeviceConfigs.get
  edgeId_injective := by decide
  inferred := by decide

/-- Two payloads of the first edge, with one of the second between them. -/
def sampleCalls : List (Fin 3 × RawHartPayload Nat) :=
  [(0, ⟨text "TIT-101", 40⟩), (1, ⟨text "PIT-101", 6⟩), (0, ⟨text "TIT-101", 41⟩)]

theorem sampleCalls_converge :
    ∃ s : RelaySystem (Fin 3) Nat,
      sampleCalls.foldlM (fun s call => s.publishLocalObservation prototype call.1 call.2)
        (.attached [0, 1, 2]) = some s ∧
      ∀ j, (s.edges j).observations .temperature = some ⟨text "TIT-101", 41⟩ := by
  refine ⟨_, rfl, fun j => ?_⟩
  have hrun := RelaySystem.run_calls sampleCalls (s := .attached [0, 1, 2]) (d := prototype)
    (by decide) (by decide) (by decide) rfl
  exact (views_converge (by decide) hrun (RelaySystem.allDelivered_network _) j).1 0

end TruthFingerprint.EdgeNodes
