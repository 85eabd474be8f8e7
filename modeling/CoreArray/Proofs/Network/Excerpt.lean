import CoreArray.Network
import CoreArray.Proofs.Log.Excerpt
set_option autoImplicit false

/-!
# What is told of the network (SPEC §10.2, §10.9)

The network tells of each copy that it takes up or delivers.  Under every watch it moves
the packets in the same way, and what is told is an excerpt of all that there is to tell
(`isExcerpt_step`).  As the number of the network never changes, the relations below carry
along that it is among the entities concerned.
-/

namespace CoreArray

namespace Network

namespace Injection

/-- What came of putting packets into the network, without what is told of it. -/
def muted (injection : Injection) : Injection := { injection with events := [] }

/-- Whether two injections do the same, and what is told of the one under a watch is an
excerpt of what is told of the other. -/
structure IsExcerpt (ids : List EntityId) (watch : Watch) (injection full : Injection) :
    Prop where
  same : injection.muted = full.muted
  events : Excerpt ids watch injection.events full.events
  source : full.network.id ∈ ids

variable {ids : List EntityId} {watch : Watch} {injection full : Injection}

theorem IsExcerpt.network_eq (h : injection.IsExcerpt ids watch full) :
    injection.network = full.network := by
  have hnetwork : injection.muted.network = full.muted.network := by rw [h.same]
  exact hnetwork

theorem IsExcerpt.result_eq (h : injection.IsExcerpt ids watch full) :
    injection.result = full.result := by
  have hresult : injection.muted.result = full.muted.result := by rw [h.same]
  exact hresult

theorem IsExcerpt.andThen {next nextFull : Network → Injection}
    (h : injection.IsExcerpt ids watch full)
    (hnext : ∀ network : Network, network.id ∈ ids →
      (next network).IsExcerpt ids watch (nextFull network)) :
    (injection.andThen next).IsExcerpt ids watch (full.andThen nextFull) := by
  have hmore := hnext full.network h.source
  unfold Injection.andThen
  rw [h.result_eq, h.network_eq]
  cases full.result with
  | error fault => exact h
  | ok done => exact ⟨hmore.same, h.events.append hmore.events, hmore.source⟩

end Injection

namespace Transit

/-- What came of moving packets, without what is told of it. -/
def muted (transit : Transit) : Transit := { transit with events := [] }

/-- Whether packets are moved in the same way, and what is told of it under a watch is an
excerpt of what is told otherwise. -/
structure IsExcerpt (ids : List EntityId) (watch : Watch) (transit full : Transit) : Prop where
  same : transit.muted = full.muted
  events : Excerpt ids watch transit.events full.events
  source : full.network.id ∈ ids

variable {ids : List EntityId} {watch : Watch} {transit full : Transit}

theorem IsExcerpt.network_eq (h : transit.IsExcerpt ids watch full) :
    transit.network = full.network := by
  have hnetwork : transit.muted.network = full.muted.network := by rw [h.same]
  exact hnetwork

theorem IsExcerpt.ports_eq (h : transit.IsExcerpt ids watch full) : transit.ports = full.ports := by
  have hports : transit.muted.ports = full.muted.ports := by rw [h.same]
  exact hports

theorem IsExcerpt.result_eq (h : transit.IsExcerpt ids watch full) :
    transit.result = full.result := by
  have hresult : transit.muted.result = full.muted.result := by rw [h.same]
  exact hresult

theorem IsExcerpt.andThen {next nextFull : Network → List Port → Transit}
    (h : transit.IsExcerpt ids watch full)
    (hnext : ∀ (network : Network) (ports : List Port), network.id ∈ ids →
      (next network ports).IsExcerpt ids watch (nextFull network ports)) :
    (transit.andThen next).IsExcerpt ids watch (full.andThen nextFull) := by
  have hmore := hnext full.network full.ports h.source
  unfold Transit.andThen
  rw [h.result_eq, h.network_eq, h.ports_eq]
  cases full.result with
  | error fault => exact h
  | ok done => exact ⟨hmore.same, h.events.append hmore.events, hmore.source⟩

end Transit

section Steps

variable {ids : List EntityId} (watch : Watch) (cycle : Cycle)

theorem isExcerpt_deliverFrom {network : Network} (h : network.id ∈ ids) (ports : List Port)
    (entries : List (FlightKey × Node × Packet)) :
    (deliverFrom watch network cycle ports entries).IsExcerpt ids watch
      (deliverFrom .everything network cycle ports entries) := by
  induction entries generalizing network ports with
  | nil => exact ⟨rfl, .nil, h⟩
  | cons entry rest ih =>
      obtain ⟨key, dest, packet⟩ := entry
      unfold deliverFrom
      split
      · exact ⟨rfl, .nil, h⟩
      · cases ports[dest]? with
        | none => exact ⟨rfl, .nil, h⟩
        | some port =>
            have htaken : (network.take key).id ∈ ids := h
            have hrest := ih htaken (ports.set dest (arrive packet port))
            exact ⟨hrest.same, .append (.say h .trace _) hrest.events, hrest.source⟩

theorem isExcerpt_injectCopy {network : Network} (h : network.id ∈ ids) (packet : Packet)
    (dest : Node) :
    (network.injectCopy watch cycle packet dest).IsExcerpt ids watch
      (network.injectCopy .everything cycle packet dest) := by
  unfold injectCopy
  cases packet.path.hopsTo dest with
  | none => exact ⟨rfl, .nil, h⟩
  | some hops => exact ⟨rfl, .say h .trace _, h⟩

theorem isExcerpt_injectCopies {network : Network} (h : network.id ∈ ids) (packet : Packet)
    (dests : List Node) :
    (injectCopies watch cycle packet network dests).IsExcerpt ids watch
      (injectCopies .everything cycle packet network dests) := by
  induction dests generalizing network with
  | nil => exact ⟨rfl, .nil, h⟩
  | cons dest dests ih =>
      exact (isExcerpt_injectCopy watch cycle h packet dest).andThen fun network hid => ih hid

theorem isExcerpt_injectAll {network : Network} (h : network.id ∈ ids) (packets : List Packet) :
    (injectAll watch cycle network packets).IsExcerpt ids watch
      (injectAll .everything cycle network packets) := by
  induction packets generalizing network with
  | nil => exact ⟨rfl, .nil, h⟩
  | cons packet packets ih =>
      exact (isExcerpt_injectCopies watch cycle h packet _).andThen fun network hid => ih hid

theorem isExcerpt_collect {network : Network} (h : network.id ∈ ids) (ports : List Port) :
    (collect watch cycle network ports).IsExcerpt ids watch
      (collect .everything cycle network ports) := by
  induction ports generalizing network with
  | nil => exact ⟨rfl, .nil, h⟩
  | cons port ports ih =>
      have hinject := isExcerpt_injectAll watch cycle h port.outbound
      unfold collect
      dsimp only
      rw [hinject.result_eq, hinject.network_eq]
      cases (injectAll .everything cycle network port.outbound).result with
      | error fault => exact ⟨rfl, hinject.events, hinject.source⟩
      | ok done =>
          have hrest := ih hinject.source
          refine ⟨?_, hinject.events.append hrest.events, hrest.source⟩
          unfold Transit.muted
          dsimp only
          rw [hrest.network_eq, hrest.ports_eq, hrest.result_eq]

/-- Under every watch the network moves the packets in the same way, and what is told is an
excerpt. -/
theorem isExcerpt_step {network : Network} (h : network.id ∈ ids) (ports : List Port) :
    (network.step watch cycle ports).IsExcerpt ids watch
      (network.step .everything cycle ports) := by
  apply (isExcerpt_deliverFrom watch cycle h ports network.copies.toList).andThen
  intro after delivered hid
  exact isExcerpt_collect watch cycle hid delivered

end Steps

end Network

end CoreArray
