import CoreArray.Proofs.Log.Recording
import CoreArray.Proofs.Machine.Excerpt
set_option autoImplicit false

/-!
# Logging only observes (SPEC §10.2, §10.10)

A machine is built below a topmost entity and runs; a core is made and driven.  Whatever
the level and the filters of the tracker, the same comes of it, and what is told are those
of all events whose level is within that of the entity that they concern
(`logging_only_observes`).

Which entities there are is known before: `Machine.entities` lists them for a machine and
`Core.entities` for a core of its own, in the order of their numbers.
-/

namespace CoreArray

open Build

/-! ## The entities -/

/-- The entities of the units of a core, from a number on. -/
def unitEntities (core : Entity) (next : EntityId) : List Entity :=
  [ .child core next "ni", .child core (next + 1) "bus", .child core (next + 2) "cpu"
  , .child core (next + 3) "acc", .child core (next + 4) "buffer" ]

/-- The entities of a core of a machine, from a number on. -/
def coreEntities (array : Entity) (node : Node) (next : EntityId) : List Entity :=
  let core := Entity.child array next s!"core{node}"
  core :: .child core (next + 1) "compiler" :: unitEntities core (next + 2)

/-- The entities of cores of a machine, from a number on. -/
def coresEntities (array : Entity) (next : EntityId) : List Node → List Entity
  | [] => []
  | node :: nodes => coreEntities array node next ++ coresEntities array (next + 7) nodes

/-- All entities of a machine with a network of its own. -/
def Machine.entities (name : String) (size : Nat) : List Entity :=
  let top := Entity.top Register.firstId name
  let array := Entity.child top (Register.firstId + 1) "array"
  top :: array :: .child array (Register.firstId + 2) "network" ::
    coresEntities array (Register.firstId + 3) (List.range size)

/-- All entities of a machine on a network that is made first. -/
def Machine.entitiesOnNetwork (name : String) (size : Nat) : List Entity :=
  let top := Entity.top Register.firstId name
  let array := Entity.child top (Register.firstId + 2) "array"
  top :: .child top (Register.firstId + 1) "network" :: array ::
    coresEntities array (Register.firstId + 3) (List.range size)

/-- All entities of a core of its own. -/
def Core.entities (name : String) (node : Node) : List Entity :=
  let top := Entity.top Register.firstId name
  let core := Entity.child top (Register.firstId + 1) s!"core{node}"
  top :: core :: unitEntities core (Register.firstId + 2)

section Numbers

theorem map_id_coresEntities (array : Entity) (next : EntityId) (nodes : List Node) :
    (coresEntities array next nodes).map Entity.id =
      List.range' next (coresEntities array next nodes).length := by
  induction nodes generalizing next with
  | nil => rfl
  | cons node nodes ih =>
      rw [coresEntities, List.map_append, List.length_append, ih]
      have hcore : (coreEntities array node next).map Entity.id = List.range' next 7 := rfl
      have hseven : (coreEntities array node next).length = 7 := rfl
      rw [hcore, hseven]
      exact List.range'_append_1

theorem Machine.map_id_entities (name : String) (size : Nat) :
    (entities name size).map Entity.id =
      List.range' Register.firstId (entities name size).length := by
  have hcores := map_id_coresEntities
    (.child (.top Register.firstId name) (Register.firstId + 1) "array") (Register.firstId + 3)
    (List.range size)
  unfold entities
  dsimp only
  rw [List.map_cons, List.map_cons, List.map_cons, hcores]
  rfl

theorem Machine.map_id_entitiesOnNetwork (name : String) (size : Nat) :
    (entitiesOnNetwork name size).map Entity.id =
      List.range' Register.firstId (entitiesOnNetwork name size).length := by
  have hcores := map_id_coresEntities
    (.child (.top Register.firstId name) (Register.firstId + 2) "array") (Register.firstId + 3)
    (List.range size)
  unfold entitiesOnNetwork
  dsimp only
  rw [List.map_cons, List.map_cons, List.map_cons, hcores]
  rfl

theorem Core.map_id_entities (name : String) (node : Node) :
    (entities name node).map Entity.id =
      List.range' Register.firstId (entities name node).length := rfl

end Numbers

/-! ## Building -/

section Builds

variable {made : List Entity} {next : EntityId}

theorem next_append (h : next = Register.firstId + made.length) (entity : Entity) :
    next + 1 = Register.firstId + (made ++ [entity]).length := by
  rw [List.length_append, List.length_singleton, h]
  rfl

theorem isRecorded_enterIds (core : EntityId) (parent : Entity)
    (h : next = Register.firstId + made.length) :
    (CoreIds.enter core parent).IsRecorded made (unitEntities parent next) fun ids =>
      ids = ⟨core, next + 1, next + 2, next + 3, next + 4, next⟩ := by
  unfold CoreIds.enter unitEntities
  have hbus := next_append h (.child parent next "ni")
  have hcpu := next_append hbus (.child parent (next + 1) "bus")
  have hacc := next_append hcpu (.child parent (next + 2) "cpu")
  have hbuffer := next_append hacc (.child parent (next + 3) "acc")
  apply isRecorded_enter h
  apply isRecorded_enter hbus
  apply isRecorded_enter hcpu
  apply isRecorded_enter hacc
  apply isRecorded_enter hbuffer
  exact isRecorded_pure rfl

theorem isRecorded_enterUnits (spec : CoreSpec) (credits : CreditBoard) (core : EntityId)
    (parent : Entity) (h : next = Register.firstId + made.length) :
    (spec.enterUnits credits core parent).IsRecorded made (unitEntities parent next) fun entered =>
      entered = { spec with ids := ⟨core, next + 1, next + 2, next + 3, next + 4, next⟩ } := by
  unfold CoreSpec.enterUnits
  apply isRecorded_require.andThen
  intro checked _
  apply (isRecorded_enterIds core parent h).andLast
  intro ids hids
  rw [hids]
  exact isRecorded_pure rfl

theorem isRecorded_startCore {spec : CoreSpec} (tracks : List (List Instruction))
    (tensors : TensorTable) (seed : Nat) (h : ∀ id ∈ spec.ids.all, id ∈ made.map Entity.id) :
    (Core.start spec tracks tensors seed).IsRecorded made [] fun core =>
      core = .ofTracks spec tracks tensors seed := by
  unfold Core.start
  have htold := isRecorded_tell fun watch =>
    ((Core.ofTracks spec tracks tensors seed).excerpt_openingEvents watch).mono h
  apply htold.andThen
  intro _ _
  exact isRecorded_pure rfl

theorem excerpt_taskEvents {ids : List EntityId} {watch : Watch} {compiler : EntityId}
    (h : compiler ∈ ids) (name : String) (task : Task) :
    Excerpt ids watch (task.events watch compiler name) (task.events .everything compiler name) :=
  .append (.sayAll h .info _) (.flatMap fun _ _ => .sayAll h .debug _)

theorem excerpt_loadedEvents {ids : List EntityId} {watch : Watch} {source : EntityId}
    (h : source ∈ ids) (path : String) (loaded : RoutingBoard.Loaded) :
    Excerpt ids watch (loaded.events watch source path) (loaded.events .everything source path) := by
  unfold RoutingBoard.Loaded.events
  split
  · exact .sayAll h .warn _
  · exact .sayAll h .info _

end Builds

namespace Machine

section Builds

variable {made : List Entity} {next : EntityId} (read : TextReader) (config : Config)

theorem isRecorded_readTables {array : EntityId} (h : array ∈ made.map Entity.id) :
    (readTables read config array).IsRecorded made [] fun _ => True := by
  unfold readTables
  apply isRecorded_require.andThen
  intro text _
  apply isRecorded_require.andThen
  intro latencies _
  apply isRecorded_require.andThen
  intro loaded _
  apply (isRecorded_tell fun watch => excerpt_loadedEvents h _ loaded).andThen
  intro _ _
  apply isRecorded_require.andThen
  intro _ _
  exact isRecorded_pure trivial

theorem isRecorded_compileTask (node : Node) (core : Entity)
    (h : next = Register.firstId + made.length) :
    (compileTask read config node core).IsRecorded made [.child core next "compiler"]
      fun _ => True := by
  have hcompiler : next ∈ (made ++ [Entity.child core next "compiler"]).map Entity.id := by
    rw [List.map_append]
    exact List.mem_append_right _ List.mem_cons_self
  unfold compileTask
  apply isRecorded_enter h
  apply isRecorded_require.andThen
  intro path _
  apply isRecorded_require.andThen
  intro task _
  apply (isRecorded_tell fun watch => excerpt_taskEvents hcompiler path task).andThen
  intro _ _
  exact isRecorded_pure trivial

theorem isRecorded_buildCore (tables : Tables) (credits : CreditBoard) (array : Entity)
    (node : Node) (h : next = Register.firstId + made.length) :
    (buildCore read config tables credits array node).IsRecorded made (coreEntities array node next)
      fun core => core.IsNumbered ((coreEntities array node next).map Entity.id) := by
  unfold buildCore coreEntities
  have hcompiler := next_append h (.child array next s!"core{node}")
  have hunits := next_append hcompiler (.child (.child array next s!"core{node}") (next + 1) "compiler")
  apply isRecorded_enter h
  apply (isRecorded_compileTask read config node _ hcompiler).bind
  intro task _
  apply (isRecorded_enterUnits _ credits _ _ hunits).andLast
  intro spec hspec
  have hids : ∀ id ∈ spec.ids.all, id ∈ (coreEntities array node next).map Entity.id := by
    rw [hspec]
    simp [CoreIds.all, coreEntities, unitEntities, Entity.id]
  refine (isRecorded_startCore task.tracks task.tensors _ fun id hmem => ?_).mono ?_
  · have hin := hids id hmem
    rw [List.append_assoc, List.append_assoc, List.map_append]
    exact List.mem_append_right _ hin
  · intro core hcore
    rw [hcore]
    exact hids

theorem isRecorded_buildCores (tables : Tables) (credits : CreditBoard) (array : Entity)
    (nodes : List Node) {made : List Entity} {next : EntityId}
    (h : next = Register.firstId + made.length) :
    (buildCores read config tables credits array nodes).IsRecorded made
      (coresEntities array next nodes)
      fun cores => ∀ core ∈ cores, core.IsNumbered ((coresEntities array next nodes).map Entity.id) := by
  induction nodes generalizing made next with
  | nil => exact isRecorded_pure (by simp)
  | cons node nodes ih =>
      have hrest : next + 7 = Register.firstId + (made ++ coreEntities array node next).length := by
        rw [List.length_append, h]
        rfl
      unfold buildCores coresEntities
      apply (isRecorded_buildCore read config tables credits array node h).bind
      intro core hcore
      apply (ih hrest).andLast
      intro cores hcores
      apply isRecorded_pure
      intro other hmem id hid
      rw [List.map_append, List.mem_append]
      rcases List.mem_cons.mp hmem with rfl | hmem
      · exact .inl (hcore id hid)
      · exact .inr (hcores other hmem id hid)

theorem isRecorded_buildOn {array network : Entity} (h : next = Register.firstId + made.length)
    (harray : array.id ∈ made.map Entity.id) (hnetwork : network.id ∈ made.map Entity.id) :
    (buildOn read config array network).IsRecorded made
      (coresEntities array next (List.range config.arraySize)) fun machine =>
        machine.IsNumbered
          ((made ++ coresEntities array next (List.range config.arraySize)).map Entity.id) := by
  have hall {id : EntityId} (hid : id ∈ made.map Entity.id) :
      id ∈ (made ++ coresEntities array next (List.range config.arraySize)).map Entity.id := by
    rw [List.map_append]
    exact List.mem_append_left _ hid
  unfold buildOn
  dsimp only
  split
  · have hthrow : (throw .noCores : Build PUnit).IsRecorded made [] fun _ => False :=
      isRecorded_throw .noCores
    apply hthrow.andThen
    intro _ hfalse
    exact hfalse.elim
  · apply (isRecorded_readTables read config harray).andThen
    intro tables _
    apply (isRecorded_buildCores read config tables _ array _ h).andLast
    intro cores hcores
    apply (isRecorded_tell fun watch => .sayAll (hall harray) .info _).andThen
    intro _ _
    apply isRecorded_pure
    refine ⟨hall harray, hall hnetwork, fun core hmem id hid => ?_⟩
    rw [List.map_append]
    exact List.mem_append_right _ (hcores core hmem id hid)

theorem isRecorded_build (parent : Entity) (h : next = Register.firstId + made.length) :
    let array := Entity.child parent next "array"
    let planned := array :: .child array (next + 1) "network" ::
      coresEntities array (next + 2) (List.range config.arraySize)
    (build read config parent).IsRecorded made planned fun machine =>
      machine.IsNumbered ((made ++ planned).map Entity.id) := by
  have hnetwork := next_append h (.child parent next "array")
  have hcores := next_append hnetwork
    (.child (.child parent next "array") (next + 1) "network")
  dsimp only
  unfold build
  apply isRecorded_enter h
  apply isRecorded_enter hnetwork
  apply (isRecorded_buildOn read config hcores (by simp) (by simp)).mono
  intro machine hmachine
  rw [List.append_assoc, List.append_assoc] at hmachine
  exact hmachine

theorem isRecorded_buildWithNetwork (parent : Entity)
    (h : next = Register.firstId + made.length) :
    let array := Entity.child parent (next + 1) "array"
    let planned := .child parent next "network" :: array ::
      coresEntities array (next + 2) (List.range config.arraySize)
    (buildWithNetwork read config parent).IsRecorded made planned fun machine =>
      machine.IsNumbered ((made ++ planned).map Entity.id) := by
  have harray := next_append h (.child parent next "network")
  have hcores := next_append harray (.child parent (next + 1) "array")
  dsimp only
  unfold buildWithNetwork
  apply isRecorded_enter h
  apply isRecorded_enter harray
  apply (isRecorded_buildOn read config hcores (by simp) (by simp)).mono
  intro machine hmachine
  rw [List.append_assoc, List.append_assoc] at hmachine
  exact hmachine

end Builds

/-! ## Whole lives -/

/-- A run of a machine: the machine that it leaves, what an observer noted after each step,
how it ended, and what is told. -/
def running {α : Type} (arbiter : Arbiter) (observe : Machine → List α) (cycles : Nat)
    (machine : Machine) (watch : Watch) : (Machine × Array α × Ending) × List Event :=
  let (run, ending) := machine.runForWith arbiter watch observe cycles
  ((run.machine, run.seen, ending), run.events.toList)

/-- Some steps of a machine, and what is told. -/
def stepping (count : Nat) (machine : Machine) (watch : Watch) : List Step × List Event :=
  let steps := machine.steps watch count
  (steps.map Step.muted, steps.flatMap Step.events)

/-- An array in its whole length: it is built below a topmost entity and goes on. -/
def life {β : Type} (make : Entity → Build Machine) (name : String)
    (go : Machine → Watch → β × List Event) : Build β := do
  let top ← enterTop name
  let machine ← make top
  live (go machine)

section Lives

variable {ids : List EntityId} (watch : Watch) {machine : Machine}

theorem excerpt_running {α : Type} (arbiter : Arbiter) (observe : Machine → List α)
    (cycles : Nat) (h : machine.IsNumbered ids) :
    (running arbiter observe cycles machine watch).1 =
        (running arbiter observe cycles machine .everything).1 ∧
      Excerpt ids watch (running arbiter observe cycles machine watch).2
        (running arbiter observe cycles machine .everything).2 := by
  obtain ⟨hrun, hending⟩ := isExcerpt_runFrom arbiter watch observe cycles
    (Run.isExcerpt_ofMachine h)
  have hmachine := hrun.machine_eq
  have hseen := hrun.seen_eq
  refine ⟨?_, hrun.events⟩
  unfold running runForWith
  dsimp only
  rw [hmachine, hseen, hending]

theorem excerpt_stepping (count : Nat) (h : machine.IsNumbered ids) :
    (stepping count machine watch).1 = (stepping count machine .everything).1 ∧
      Excerpt ids watch (stepping count machine watch).2
        (stepping count machine .everything).2 := by
  unfold stepping
  dsimp only
  induction count generalizing machine with
  | zero => exact ⟨rfl, .nil⟩
  | succ count ih =>
      have hstep : (machine.step watch).IsExcerpt ids watch (machine.step .everything) :=
        isExcerpt_stepWith .seeded watch h
      unfold steps
      dsimp only
      rw [hstep.result_eq, hstep.machine_eq]
      cases (machine.step .everything).result with
      | error fault =>
          dsimp only
          rw [List.map_singleton, List.map_singleton, List.flatMap_singleton,
            List.flatMap_singleton]
          exact ⟨congrArg (fun step => [step]) hstep.same, hstep.events⟩
      | ok done =>
          obtain ⟨hrest, hevents⟩ := ih hstep.numbered
          dsimp only
          rw [List.map_cons, List.map_cons, List.flatMap_cons, List.flatMap_cons, hstep.same, hrest]
          exact ⟨rfl, hstep.events.append hevents⟩

theorem isRecorded_life {β : Type} {make : Entity → Build Machine} {name : String}
    {planned : List Entity} {go : Machine → Watch → β × List Event}
    (h : (make (.top Register.firstId name)).IsRecorded [.top Register.firstId name] planned
      fun machine => machine.IsNumbered ((.top Register.firstId name :: planned).map Entity.id))
    (hgo : ∀ (ids : List EntityId) (machine : Machine) (watch : Watch), machine.IsNumbered ids →
      (go machine watch).1 = (go machine .everything).1 ∧
        Excerpt ids watch (go machine watch).2 (go machine .everything).2) :
    (life make name go).IsRecorded [] (.top Register.firstId name :: planned) fun _ => True := by
  unfold life
  apply (@isRecorded_make [] (fun id => .top id name) (fun _ => rfl) Register.firstId rfl).bind
  intro top htop
  rw [htop]
  apply h.andLast
  intro machine hmachine
  exact (isRecorded_live fun watch => hgo _ machine watch hmachine).mono fun _ _ => trivial

/-- Whatever a machine goes on to do: if that is only observed, so is the whole life. -/
theorem onlyObserved_life {β : Type} {go : Machine → Watch → β × List Event}
    (hgo : ∀ (ids : List EntityId) (machine : Machine) (watch : Watch), machine.IsNumbered ids →
      (go machine watch).1 = (go machine .everything).1 ∧
        Excerpt ids watch (go machine watch).2 (go machine .everything).2)
    (read : TextReader) (config : Config) (name : String) :
    (life (build read config) name go).OnlyObserved (entities name config.arraySize) ∧
      (life (buildWithNetwork read config) name go).OnlyObserved
        (entitiesOnNetwork name config.arraySize) := by
  have hnext : Register.firstId + 1 =
      Register.firstId + [Entity.top Register.firstId name].length := rfl
  constructor
  · exact (isRecorded_life (isRecorded_build read config _ hnext) hgo).onlyObserved
      (map_id_entities name config.arraySize)
  · exact (isRecorded_life (isRecorded_buildWithNetwork read config _ hnext) hgo).onlyObserved
      (map_id_entitiesOnNetwork name config.arraySize)

end Lives

end Machine

/-- A core of its own in its whole length: it is made below a topmost entity, with its units,
and driven.  What comes of it are the core, the credit board and the ticks. -/
def Core.life (name : String) (spec : CoreSpec) (credits : CreditBoard)
    (tracks : List (List Instruction)) (tensors : TensorTable) (seed : Nat) (drives : List Drive) :
    Build Driven := do
  let top ← enterTop name
  let entity ← enter top s!"core{spec.node}"
  let spec ← spec.enterUnits credits entity.id entity
  let core ← Core.start spec tracks tensors seed
  live fun watch =>
    let driven := Driven.after watch ⟨core, credits, []⟩ drives
    (driven.muted, driven.events)

theorem Core.isRecorded_life (name : String) (spec : CoreSpec) (credits : CreditBoard)
    (tracks : List (List Instruction)) (tensors : TensorTable) (seed : Nat) (drives : List Drive) :
    (life name spec credits tracks tensors seed drives).IsRecorded []
      (entities name spec.node) fun _ => True := by
  have hcore : Register.firstId + 1 =
      Register.firstId + [Entity.top Register.firstId name].length := rfl
  have hunits := next_append hcore
    (.child (.top Register.firstId name) (Register.firstId + 1) s!"core{spec.node}")
  unfold life entities
  apply (@isRecorded_make [] (fun id => .top id name) (fun _ => rfl) Register.firstId rfl).bind
  intro top htop
  rw [htop]
  apply isRecorded_enter hcore
  apply (isRecorded_enterUnits spec credits _ _ hunits).andLast
  intro entered hentered
  have hids : ∀ id ∈ entered.ids.all, id ∈ (entities name spec.node).map Entity.id := by
    rw [hentered]
    simp [CoreIds.all, entities, unitEntities, Entity.id]
  apply (isRecorded_startCore tracks tensors seed hids).andThen
  intro core hmade
  have hnumbered : ∀ id ∈ core.spec.ids.all, id ∈ (entities name spec.node).map Entity.id := by
    rw [hmade]
    exact hids
  refine (isRecorded_live fun watch => ?_).mono fun _ _ => trivial
  have hdriven := @Driven.isExcerpt_after watch ⟨core, credits, []⟩ ⟨core, credits, []⟩
    ⟨rfl, .nil⟩ drives
  exact ⟨hdriven.same, hdriven.events.mono hnumbered⟩

namespace Machine

/-- Logging decides nothing.  Whatever the level and the filters of the tracker, an array that
is built and runs, or takes steps, comes to the same, and so does a core that is made and
driven; what is told are those of all events whose level is within that of the entity that
they concern. -/
theorem logging_only_observes :
    (∀ {α : Type} (read : TextReader) (config : Config) (name : String) (arbiter : Arbiter)
        (observe : Machine → List α) (cycles : Nat),
      (life (build read config) name (running arbiter observe cycles)).OnlyObserved
          (entities name config.arraySize) ∧
        (life (buildWithNetwork read config) name (running arbiter observe cycles)).OnlyObserved
          (entitiesOnNetwork name config.arraySize)) ∧
    (∀ (read : TextReader) (config : Config) (name : String) (count : Nat),
      (life (build read config) name (stepping count)).OnlyObserved
          (entities name config.arraySize) ∧
        (life (buildWithNetwork read config) name (stepping count)).OnlyObserved
          (entitiesOnNetwork name config.arraySize)) ∧
    ∀ (name : String) (spec : CoreSpec) (credits : CreditBoard)
        (tracks : List (List Instruction)) (tensors : TensorTable) (seed : Nat)
        (drives : List Drive),
      (Core.life name spec credits tracks tensors seed drives).OnlyObserved
        (Core.entities name spec.node) := by
  refine ⟨?_, ?_, ?_⟩
  · intro α read config name arbiter observe cycles
    apply onlyObserved_life
    intro ids machine watch hmachine
    exact excerpt_running watch arbiter observe cycles hmachine
  · intro read config name count
    apply onlyObserved_life
    intro ids machine watch hmachine
    exact excerpt_stepping watch count hmachine
  · intro name spec credits tracks tensors seed drives
    exact (Core.isRecorded_life name spec credits tracks tensors seed drives).onlyObserved
      (Core.map_id_entities name spec.node)

end Machine

end CoreArray
