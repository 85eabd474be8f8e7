import CoreArray.Proofs.Datapath.Cases
import Mathlib.Data.List.TakeWhile
set_option autoImplicit false

/-!
# What is told of retries (SPEC §4.4, §10.2)

An instruction that has to wait is tried again and again, and each trial tells of its wait at
the least important level.  What a send says beyond that is said at different stages: that it
names its own node is said while its operands are read, that it passes over a multicast tree
or carries no elements only once all its destinations are open.

So the latter is told as often as if the send had never waited, but the former is told at
every trial: `retries_told`.
-/

namespace CoreArray

/-- What a network interface finds when an instruction is tried. -/
structure Trial where
  credits : CreditBoard
  path : Datapath
  cycle : Cycle

namespace Trial

/-- What comes of a trial. -/
def execution (watch : Watch) (spec : CoreSpec) (instr : Instruction) (trial : Trial) :
    Execution :=
  trial.path.run watch spec trial.credits .ni instr trial.cycle

/-- Whether the instruction has to wait. -/
def Stalls (watch : Watch) (spec : CoreSpec) (instr : Instruction) (trial : Trial) : Prop :=
  (trial.execution watch spec instr).reply = .ok .notYet

instance (watch : Watch) (spec : CoreSpec) (instr : Instruction) (trial : Trial) :
    Decidable (trial.Stalls watch spec instr) :=
  decidable_of_iff ((trial.execution watch spec instr).reply.toOption = some .notYet)
    toOption_eq_some_iff

/-- What is told of trials, one after the other. -/
def told (watch : Watch) (spec : CoreSpec) (instr : Instruction) (trials : List Trial) :
    List Event :=
  trials.flatMap fun trial => (trial.execution watch spec instr).events

end Trial

namespace CoreSpec

/-- Whether an instruction is a send that names the own node. -/
def SendsToItself (spec : CoreSpec) (instr : Instruction) : Prop :=
  instr.opcode = "send" ∧ (spec.node : Int) ∈ instr.operands.drop 1

/-- The warnings of a send about the own node. -/
def selfWarnings (watch : Watch) (spec : CoreSpec) (instr : Instruction) : List Event :=
  match instr.operands with
  | [] => []
  | id :: operands => if instr.opcode = "send" then spec.ownSendEvents watch id operands else []

end CoreSpec

/-! ## Warnings -/

section Warnings

variable {watch : Watch} {spec : CoreSpec} {instr : Instruction} {event : Event}

/-- What is said is a message with its level. -/
theorem eq_of_mem_say {source : EntityId} {level : Level} {text : String}
    (h : event ∈ watch.say source level text) : event = .message source level [text] := by
  unfold Watch.say Watch.sayAll at h
  split at h
  · exact List.mem_singleton.mp h
  · exact absurd h List.not_mem_nil

theorem say_eq_nil_iff {source : EntityId} {level : Level} {text : String} :
    watch.say source level text = [] ↔ watch source level = false := by
  unfold Watch.say Watch.sayAll
  split
  · next htold => simp [htold]
  · next hsilent => simp [hsilent]

namespace CoreSpec

theorem selfWarnings_of_send {id : TensorId} (hopcode : instr.opcode = "send")
    (hid : instr.operands[0]? = some id) :
    spec.selfWarnings watch instr = spec.ownSendEvents watch id (instr.operands.drop 1) := by
  unfold selfWarnings
  cases hoperands : instr.operands with
  | nil =>
      rw [hoperands] at hid
      nomatch hid
  | cons first operands =>
      rw [hoperands, List.getElem?_cons_zero] at hid
      rw [Option.some.inj hid]
      exact if_pos hopcode

theorem selfWarnings_of_ne_send (hopcode : instr.opcode ≠ "send") :
    spec.selfWarnings watch instr = [] := by
  unfold selfWarnings
  split
  · rfl
  · exact if_neg hopcode

/-- The warnings about the own node begin with an `n`. -/
theorem of_mem_selfWarnings (h : event ∈ spec.selfWarnings watch instr) :
    ∃ text : String, text.toList.head? = some 'n' ∧
      event = .message spec.ids.ni .warn [text] := by
  unfold selfWarnings at h
  split at h
  · exact absurd h List.not_mem_nil
  · split at h
    · obtain ⟨-, -, hsaid⟩ := List.mem_flatMap.mp h
      exact ⟨_, by simp [toString, String.toList_append], eq_of_mem_say hsaid⟩
    · exact absurd h List.not_mem_nil

/-- A warning with another first letter is not about the own node. -/
theorem not_mem_selfWarnings_of_say {text : String} (hhead : text.toList.head? ≠ some 'n')
    (h : event ∈ watch.say spec.ids.ni .warn text) :
    event.level = .warn ∧ event ∉ spec.selfWarnings watch instr := by
  rw [eq_of_mem_say h]
  refine ⟨rfl, fun hself => ?_⟩
  obtain ⟨own, hown, hsame⟩ := of_mem_selfWarnings hself
  injection hsame with _ _ hparts
  exact hhead (List.singleton_inj.mp hparts ▸ hown)

theorem not_mem_selfWarnings_of_bypass {id : TensorId} {dests : List Node}
    (h : event ∈ spec.bypassEvents watch id dests) :
    event.level = .warn ∧ event ∉ spec.selfWarnings watch instr := by
  unfold bypassEvents at h
  split at h
  · exact not_mem_selfWarnings_of_say (by simp [toString, String.toList_append]) h
  · exact absurd h List.not_mem_nil

theorem not_mem_selfWarnings_of_padding {tensor : Tensor}
    (h : event ∈ spec.paddingEvents watch tensor) :
    event.level = .warn ∧ event ∉ spec.selfWarnings watch instr := by
  unfold paddingEvents at h
  split at h
  · exact not_mem_selfWarnings_of_say (by simp [toString, String.toList_append]) h
  · exact absurd h List.not_mem_nil

/-- A send of which all operands are nodes warns if it names its own. -/
theorem ownSends_eq_zero_iff {own : Node} {operands : List Int}
    (h : ∀ value ∈ operands, 0 ≤ value) :
    ownSends own operands = 0 ↔ (own : Int) ∉ operands := by
  have hall : (operands.takeWhile fun value => 0 ≤ value) = operands :=
    List.takeWhile_eq_self_iff.mpr fun value hmem => decide_eq_true (h value hmem)
  unfold ownSends
  rw [hall, List.length_eq_zero_iff, List.filter_eq_nil_iff]
  constructor
  · intro hnone hmem
    exact hnone _ hmem (beq_self_eq_true _)
  · intro hnot value hmem hsame
    exact hnot (eq_of_beq hsame ▸ hmem)

theorem selfWarnings_eq_nil_iff (h : ∀ value ∈ instr.operands.drop 1, 0 ≤ value) :
    spec.selfWarnings watch instr = [] ↔
      ¬(spec.SendsToItself instr ∧ watch spec.ids.ni .warn = true) := by
  unfold selfWarnings SendsToItself
  cases hoperands : instr.operands with
  | nil => simp
  | cons id operands =>
      rw [hoperands, List.drop_one, List.tail_cons] at h
      rw [List.drop_one, List.tail_cons]
      dsimp only
      split
      · next hsend =>
          unfold ownSendEvents
          simp only [List.flatMap_eq_nil_iff, say_eq_nil_iff, List.mem_replicate, and_imp,
            ownSends_eq_zero_iff h, Ne, Decidable.not_not, hsend, true_and, not_and,
            Bool.not_eq_true]
          exact ⟨fun hsilent hmem => hsilent () hmem trivial, fun hsilent _ hmem _ => hsilent hmem⟩
      · next hother => simp [hother]

end CoreSpec

end Warnings

/-! ## Stalled trials -/

namespace Datapath

section Stalls

variable {watch : Watch} {spec : CoreSpec} {credits : CreditBoard} {path : Datapath}
  {instr : Instruction} {cycle : Cycle}

/-- No send has to wait once its packets are made. -/
theorem reply_dispatch_ne_notYet {tensor : Tensor} {dests : List Node} :
    (path.dispatch watch spec credits tensor dests cycle).reply ≠ .ok .notYet := by
  unfold dispatch
  split
  · exact fun h => nomatch h
  · exact fun h => nomatch h

theorem events_of_sendTo_stalled {id : TensorId} {dests : List Node}
    (h : (path.sendTo watch spec credits instr id dests cycle).reply = .ok .notYet) :
    ∃ text : String, (path.sendTo watch spec credits instr id dests cycle).events =
      watch.say spec.ids.ni .trace text := by
  unfold sendTo at h ⊢
  split at h
  · nomatch h
  · split at h
    · nomatch h
    · exact absurd h reply_dispatch_ne_notYet
    · exact ⟨_, rfl⟩

/-- A send that has to wait names nodes only, and tells of the own one and of its wait. -/
theorem events_of_send_stalled (hopcode : instr.opcode = "send")
    (h : (path.send watch spec credits instr cycle).reply = .ok .notYet) :
    (∀ value ∈ instr.operands.drop 1, 0 ≤ value) ∧ ∃ text : String,
      (path.send watch spec credits instr cycle).events =
        spec.selfWarnings watch instr ++ watch.say spec.ids.ni .trace text := by
  unfold send at h ⊢
  split at h
  · nomatch h
  · next id hid =>
      rw [CoreSpec.selfWarnings_of_send hopcode (operandOf_eq_ok hid)]
      dsimp only at h ⊢
      split at h
      · nomatch h
      · next hnone =>
          refine ⟨fun value hmem => ?_, ?_⟩
          · have hcheck := List.find?_eq_none.mp hnone value hmem
            rw [decide_eq_true_eq] at hcheck
            exact Int.not_lt.mp hcheck
          · split at h
            · nomatch h
            · obtain ⟨text, htext⟩ := events_of_sendTo_stalled h
              exact ⟨text, congrArg (_ ++ ·) htext⟩

theorem events_of_recv_stalled
    (h : (path.recv watch spec credits instr cycle).reply = .ok .notYet) :
    ∃ text : String, (path.recv watch spec credits instr cycle).events =
      watch.say spec.ids.ni .trace text := by
  unfold recv at h ⊢
  split at h
  · nomatch h
  · split at h
    · exact ⟨_, rfl⟩
    · nomatch h

/-- An instruction that has to wait tells of its wait, and of the own node if it is a send
that names it. -/
theorem events_of_stalled
    (h : (path.run watch spec credits .ni instr cycle).reply = .ok .notYet) :
    (instr.opcode = "send" → ∀ value ∈ instr.operands.drop 1, 0 ≤ value) ∧ ∃ text : String,
      (path.run watch spec credits .ni instr cycle).events =
        spec.selfWarnings watch instr ++ watch.say spec.ids.ni .trace text := by
  change (path.runInterface watch spec credits instr cycle).reply = _ at h
  change _ ∧ ∃ text : String, (path.runInterface watch spec credits instr cycle).events = _
  unfold runInterface at h ⊢
  split at h
  · nomatch h
  · split at h
    · next hsend =>
        obtain ⟨hnodes, htext⟩ := events_of_send_stalled hsend h
        rw [if_pos hsend]
        exact ⟨fun _ => hnodes, htext⟩
    · next hsend =>
        rw [CoreSpec.selfWarnings_of_ne_send hsend, if_neg hsend]
        refine ⟨fun hopcode => absurd hopcode hsend, ?_⟩
        split at h
        · next hrecv =>
            rw [if_pos hrecv]
            exact events_of_recv_stalled h
        · nomatch h

end Stalls

end Datapath

/-! ## Trials one after the other -/

namespace Trial

section Told

variable {watch : Watch} {spec : CoreSpec} {instr : Instruction} {trial last : Trial}
  {stalled : List Trial} {event : Event}

theorem told_append (first second : List Trial) :
    told watch spec instr (first ++ second) =
      told watch spec instr first ++ told watch spec instr second :=
  List.flatMap_append

theorem told_singleton :
    told watch spec instr [trial] = (trial.execution watch spec instr).events :=
  List.flatMap_singleton _ _

/-- Beyond its wait, a stalled trial tells of the own node only. -/
theorem Stalls.count_events (h : trial.Stalls watch spec instr) (hlevel : event.level ≠ .trace) :
    (trial.execution watch spec instr).events.count event =
      (spec.selfWarnings watch instr).count event := by
  obtain ⟨-, text, htext⟩ := Datapath.events_of_stalled h
  have hwait : event ∉ watch.say spec.ids.ni .trace text := fun hmem =>
    hlevel (congrArg Event.level (eq_of_mem_say hmem))
  change List.count event (trial.path.run watch spec trial.credits .ni instr trial.cycle).events = _
  rw [htext, List.count_append, List.count_eq_zero_of_not_mem hwait, Nat.add_zero]

/-- A stalled trial tells of nothing but its wait unless it names the own node. -/
theorem Stalls.quiet_iff (h : trial.Stalls watch spec instr) :
    (∀ event ∈ (trial.execution watch spec instr).events, event.level = .trace) ↔
      ¬(spec.SendsToItself instr ∧ watch spec.ids.ni .warn = true) := by
  obtain ⟨hnodes, text, htext⟩ := Datapath.events_of_stalled h
  have hquiet : (∀ event ∈ (trial.execution watch spec instr).events, event.level = .trace) ↔
      spec.selfWarnings watch instr = [] := by
    change (∀ event ∈ (trial.path.run watch spec trial.credits .ni instr trial.cycle).events, _) ↔ _
    rw [htext]
    constructor
    · refine fun hall => List.eq_nil_iff_forall_not_mem.mpr fun event hmem => ?_
      have htrace := hall event (List.mem_append_left _ hmem)
      obtain ⟨own, -, rfl⟩ := CoreSpec.of_mem_selfWarnings hmem
      nomatch htrace
    · intro hnil event hmem
      rw [hnil, List.nil_append] at hmem
      exact congrArg Event.level (eq_of_mem_say hmem)
  by_cases hsend : instr.opcode = "send"
  · exact hquiet.trans (CoreSpec.selfWarnings_eq_nil_iff (hnodes hsend))
  · refine hquiet.trans (iff_of_true (CoreSpec.selfWarnings_of_ne_send hsend) ?_)
    rintro ⟨⟨hopcode, -⟩, -⟩
    exact hsend hopcode

/-- Every stalled trial repeats the warnings about the own node. -/
theorem count_told_stalled (h : ∀ trial ∈ stalled, trial.Stalls watch spec instr)
    (hlevel : event.level ≠ .trace) :
    (told watch spec instr stalled).count event =
      stalled.length * (spec.selfWarnings watch instr).count event := by
  induction stalled with
  | nil => rw [List.length_nil, Nat.zero_mul]; rfl
  | cons trial stalled ih =>
      have hfirst := (h trial List.mem_cons_self).count_events hlevel
      have hrest := ih fun other hmem => h other (List.mem_cons_of_mem _ hmem)
      rw [← List.singleton_append, told_append, told_singleton, List.count_append, hfirst, hrest,
        List.length_append, List.length_singleton, Nat.add_mul, Nat.one_mul]

theorem count_told (h : ∀ trial ∈ stalled, trial.Stalls watch spec instr)
    (hlevel : event.level ≠ .trace) :
    (told watch spec instr (stalled ++ [last])).count event =
      stalled.length * (spec.selfWarnings watch instr).count event +
        (last.execution watch spec instr).events.count event := by
  rw [told_append, told_singleton, List.count_append, count_told_stalled h hlevel]

/-- Nothing else is repeated. -/
theorem count_told_of_not_mem (h : ∀ trial ∈ stalled, trial.Stalls watch spec instr)
    (hlevel : event.level ≠ .trace) (hother : event ∉ spec.selfWarnings watch instr) :
    (told watch spec instr (stalled ++ [last])).count event =
      (last.execution watch spec instr).events.count event := by
  rw [count_told h hlevel, List.count_eq_zero_of_not_mem hother, Nat.mul_zero, Nat.zero_add]

theorem count_told_le_iff (h : ∀ trial ∈ stalled, trial.Stalls watch spec instr)
    (hlevel : event.level ≠ .trace) :
    (told watch spec instr (stalled ++ [last])).count event ≤
        (last.execution watch spec instr).events.count event ↔
      stalled = [] ∨ event ∉ spec.selfWarnings watch instr := by
  have hnone (more own : Nat) : more + own ≤ own ↔ more = 0 := by omega
  rw [count_told h hlevel, hnone, Nat.mul_eq_zero, List.length_eq_zero_iff, List.count_eq_zero]

/-- A stalled trial tells of nothing beyond its wait exactly if it is no send that names the
own node while warnings are told.  However often an instruction stalls before it is tried for
the last time, what is said beyond the waits is said no more often than by the last trial
alone, but for the warnings about the own node, which every stalled trial says; and that a
multicast tree is passed over or that a tensor has no elements is said as often as by the last
trial alone. -/
theorem retries_told (watch : Watch) (spec : CoreSpec) (instr : Instruction)
    (stalled : List Trial) (last : Trial)
    (hstalled : ∀ trial ∈ stalled, trial.Stalls watch spec instr) :
    (∀ trial ∈ stalled,
      (∀ event ∈ (trial.execution watch spec instr).events, event.level = .trace) ↔
        ¬(spec.SendsToItself instr ∧ watch spec.ids.ni .warn = true)) ∧
    (∀ event : Event, event.level ≠ .trace →
      (told watch spec instr (stalled ++ [last])).count event =
          stalled.length * (spec.selfWarnings watch instr).count event +
            (last.execution watch spec instr).events.count event ∧
        ((told watch spec instr (stalled ++ [last])).count event ≤
            (last.execution watch spec instr).events.count event ↔
          stalled = [] ∨ event ∉ spec.selfWarnings watch instr)) ∧
    ∀ (id : TensorId) (dests : List Node) (tensor : Tensor) (event : Event),
      event ∈ spec.bypassEvents watch id dests ∨ event ∈ spec.paddingEvents watch tensor →
        (told watch spec instr (stalled ++ [last])).count event =
          (last.execution watch spec instr).events.count event := by
  refine ⟨fun trial hmem => (hstalled trial hmem).quiet_iff,
    fun event hlevel => ⟨count_told hstalled hlevel, count_told_le_iff hstalled hlevel⟩, ?_⟩
  intro id dests tensor event hlater
  obtain ⟨hlevel, hother⟩ :
      event.level = .warn ∧ event ∉ spec.selfWarnings watch instr := by
    obtain hbypass | hpadding := hlater
    · exact CoreSpec.not_mem_selfWarnings_of_bypass hbypass
    · exact CoreSpec.not_mem_selfWarnings_of_padding hpadding
  exact count_told_of_not_mem hstalled (by rw [hlevel]; decide) hother

end Told

/-- A core with a tree for another send of its tensor. -/
def otherTree : CoreSpec :=
  { (default : CoreSpec) with
    channelWidth := 4, board := (RoutingBoard.empty.insert 7 (.direct 0 1)).2 }

/-- A send of the tensor to the own node and to another one. -/
def selfSend : Instruction := .plain "NI" "send" [7, 0, 2]

/-- A trial of the send of a tensor without elements, while the other node invites packets or
not. -/
def emptySend (isOpen : Bool) (cycle : Cycle) : Trial :=
  ⟨⟨[true, true, isOpen]⟩, .ofTensors (.ofList [⟨7, []⟩]), cycle⟩

/-- The warnings of the send, of which the first is about the own node. -/
def sendWarnings : List Event :=
  [.message 0 .warn ["node 0 sends tensor 7 to itself, the packet is dropped " ++
      "but this may cause deadlocks"],
    .message 0 .warn ["ignoring the multicast tree of tensor 7, only unicast packets are sent"],
    .message 0 .warn ["tensor 7 is empty, padding it with one flit"]]

/-- When the send stalls twice, it tells of the own node three times and of the rest once. -/
theorem self_send_told_at_each_trial :
    sendWarnings.map (told .everything otherTree selfSend
      ([emptySend false 0, emptySend false 1] ++ [emptySend true 2])).count = [3, 1, 1] := by
  obtain ⟨-, hcounts, hlater⟩ := retries_told .everything otherTree selfSend
    [emptySend false 0, emptySend false 1] (emptySend true 2)
    (by decide +kernel)
  unfold sendWarnings
  rw [List.map_cons, List.map_cons, List.map_singleton, (hcounts _ (by decide)).1,
    hlater 7 [2] ⟨7, []⟩ _ (.inl (by decide +kernel)),
    hlater 7 [2] ⟨7, []⟩ _ (.inr (by decide +kernel))]
  decide +kernel

/-- Not every trial that has to wait is quiet, and not every warning is told as seldom as by
the last trial alone. -/
theorem stalled_self_send_warns_again :
    (¬ ∀ (watch : Watch) (spec : CoreSpec) (instr : Instruction) (trial : Trial),
      instr.opcode = "send" ∨ instr.opcode = "recv" → trial.Stalls watch spec instr →
        ∀ event ∈ (trial.execution watch spec instr).events, event.level = .trace) ∧
    ¬ ∀ (watch : Watch) (spec : CoreSpec) (instr : Instruction) (stalled : List Trial)
        (last : Trial) (event : Event),
      (∀ trial ∈ stalled, trial.Stalls watch spec instr) → ¬last.Stalls watch spec instr →
        event.level = .warn →
          (told watch spec instr (stalled ++ [last])).count event ≤
            (last.execution watch spec instr).events.count event := by
  have hstalled : (emptySend false 0).Stalls .everything otherTree selfSend := by
    decide +kernel
  constructor
  · intro hall
    have hquiet := hall .everything otherTree selfSend (emptySend false 0) (.inl rfl) hstalled
    revert hquiet
    decide +kernel
  · intro hall
    have hseldom := hall .everything otherTree selfSend [emptySend false 0] (emptySend true 1)
      (sendWarnings.headD default) (List.forall_mem_singleton.mpr hstalled)
      (by decide +kernel) rfl
    revert hseldom
    decide +kernel

end Trial

end CoreArray
