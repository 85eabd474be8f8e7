import CoreArray.Proofs.Lists
import CoreArray.Proofs.Task.OperatorLines
import Mathlib.Data.Finset.Card
set_option autoImplicit false

/-!
# Data flow of lowered operators (SPEC §4.1)

A compute operator whose inputs must all be fetched is lowered to instructions that use no
tensor before it is there (`RespectsDataFlow`).  Each different input is received once,
whatever is read from the buffer was written into it, and each occurrence of an output has
its own part of the instructions, in which the inputs are read, the output is calculated,
written and read back, and sent.  Inputs and outputs may repeat, and an output may be an
input.

What comes before what is asked of the whole list (`IsPreceded`), what happens how often is
asked of the instructions of one kind.
-/

namespace CoreArray

open Lowering

namespace Instruction

/-- Whether an instruction calculates, on the processor or on the accelerator. -/
def isCalculation (i : Instruction) : Bool := i.unit == "CPU" || i.unit == "ACC"

/-- Whether an instruction receives a tensor. -/
def isReceive (i : Instruction) : Bool := i.unit == "NI" && i.opcode == "recv"

/-- Whether an instruction sends a tensor. -/
def isSend (i : Instruction) : Bool := i.unit == "NI" && i.opcode == "send"

end Instruction

namespace ComputeOp

/-- Whether all inputs are marked as not on the core. -/
def FetchesAll (op : ComputeOp) : Prop :=
  ∀ place < op.inputs.length, op.stationary[place]? = some false

/-- What the instructions for one occurrence of an output do. -/
structure IsOutputPart (op : ComputeOp) (output : TensorId) (part : List Instruction) :
    Prop where
  /-- There is one calculation, of this output. -/
  calculated : part.filter Instruction.isCalculation = [calculate op.config output op.inputs]
  /-- Before it every input is read. -/
  loaded : ∀ instr, instr.isCalculation = true → ∀ id ∈ op.inputs,
    IsPreceded part instr (read id)
  /-- The output is written, read back and sent after it. -/
  ordered : [calculate op.config output op.inputs, write output, read output,
    sendBound op.dests output].Sublist part
  /-- It is sent once, and nothing else is. -/
  sent : part.filter Instruction.isSend = [sendBound op.dests output]

/-- What the instructions of a compute operator do that fetches all its inputs. -/
structure RespectsDataFlow (op : ComputeOp) (instrs : List Instruction) : Prop where
  /-- Each input is received once, and nothing else is. -/
  received : ∀ id, instrs.count (recv id) = if id ∈ op.inputs then 1 else 0
  /-- What is read from the buffer has been written into it. -/
  written : ∀ id, IsPreceded instrs (read id) (write id)
  /-- No calculation comes before the inputs have been read. -/
  loaded : ∀ instr, instr.isCalculation = true → ∀ id ∈ op.inputs,
    IsPreceded instrs instr (read id)
  /-- After the fetches there is a part for each occurrence of an output. -/
  parts : ∃ (fetches : List Instruction) (parts : List (List Instruction)),
    instrs = fetches ++ parts.flatten ∧
    (∀ instr ∈ fetches, instr.isCalculation = false ∧ instr.isSend = false) ∧
    List.Forall₂ op.IsOutputPart op.outputs parts
  /-- The number of the instructions. -/
  length : instrs.length =
    3 * op.inputs.toFinset.card + op.outputs.length * (2 * op.inputs.length + 6)

variable {op : ComputeOp}

/-! ## Fetching -/

theorem filter_zip_of_all {α : Type} {items : List α} {marks : List Bool}
    (h : ∀ place < items.length, marks[place]? = some false) :
    ((items.zip marks).filter fun (_, mark) => !mark).map Prod.fst = items := by
  induction items generalizing marks with
  | nil => rfl
  | cons item items ih =>
      cases marks with
      | nil => simpa using h 0 (Nat.succ_pos _)
      | cons mark marks =>
          obtain rfl : mark = false := by simpa using h 0 (Nat.succ_pos _)
          rw [List.zip_cons_cons, List.filter_cons_of_pos rfl, List.map_cons,
            ih fun place hplace => h (place + 1) (Nat.succ_lt_succ hplace)]

/-- Each input is fetched once. -/
theorem FetchesAll.fetched_eq (h : op.FetchesAll) : op.fetched = op.inputs.eraseDups := by
  unfold fetched
  rw [filter_zip_of_all h]

theorem FetchesAll.mem_fetched (h : op.FetchesAll) {id : TensorId} :
    id ∈ op.fetched ↔ id ∈ op.inputs := by
  rw [h.fetched_eq, List.mem_eraseDups]

theorem FetchesAll.length_fetched (h : op.FetchesAll) :
    op.fetched.length = op.inputs.toFinset.card := by
  have hsame : op.inputs.toFinset = op.inputs.eraseDups.toFinset := by
    ext id
    rw [List.mem_toFinset, List.mem_toFinset, List.mem_eraseDups]
  rw [hsame, List.toFinset_card_of_nodup (nodup_eraseDups _), h.fetched_eq]

theorem read_not_mem_fetches (ids : List TensorId) (id : TensorId) :
    read id ∉ ids.flatMap fetch := by
  simp [fetch, Lowering.read, Lowering.recv, Lowering.trans, Lowering.write, Instruction.plain]

/-- Fetches calculate and send nothing. -/
theorem kind_of_mem_fetches {ids : List TensorId} {instr : Instruction}
    (h : instr ∈ ids.flatMap fetch) : instr.isCalculation = false ∧ instr.isSend = false := by
  obtain ⟨id, -, hmem⟩ := List.mem_flatMap.mp h
  simp only [fetch, List.mem_cons, List.not_mem_nil, or_false] at hmem
  rcases hmem with rfl | rfl | rfl <;> exact ⟨rfl, rfl⟩

theorem filter_receive_fetches (ids : List TensorId) :
    (ids.flatMap fetch).filter Instruction.isReceive = ids.map recv := by
  rw [List.filter_flatMap, List.map_eq_flatMap]
  rfl

/-! ## Loading -/

/-- Loads calculate, receive and send nothing. -/
theorem kind_of_mem_loads {ids : List TensorId} {instr : Instruction}
    (h : instr ∈ ids.flatMap load) :
    instr.isCalculation = false ∧ instr.isReceive = false ∧ instr.isSend = false := by
  obtain ⟨id, -, hmem⟩ := List.mem_flatMap.mp h
  simp only [load, List.mem_cons, List.not_mem_nil, or_false] at hmem
  rcases hmem with rfl | rfl <;> exact ⟨rfl, rfl, rfl⟩

theorem read_mem_loads {ids : List TensorId} {id : TensorId} :
    read id ∈ ids.flatMap load ↔ id ∈ ids := by
  simp [load, Lowering.read, Lowering.trans, Instruction.plain]

theorem filter_loads {ids : List TensorId} {kind : Instruction → Bool}
    (h : ∀ instr ∈ ids.flatMap load, kind instr = false) : (ids.flatMap load).filter kind = [] :=
  List.filter_eq_nil_iff.mpr fun instr hmem => Bool.eq_false_iff.mp (h instr hmem)

/-! ## One output -/

/-- The instructions for an output that follow the loads. -/
def conclude (op : ComputeOp) (output : TensorId) : List Instruction :=
  [calculate op.config output op.inputs, trans output, write output] ++
    [read output, trans output, sendBound op.dests output]

theorem lowerOutput_eq (op : ComputeOp) (output : TensorId) :
    op.lowerOutput output = op.inputs.flatMap load ++ op.conclude output := by
  unfold lowerOutput
  rw [List.append_assoc]
  rfl

/-- Only the first of these instructions calculates, only the last one uses the network, and
that one sends. -/
theorem filter_conclude (op : ComputeOp) (output : TensorId) :
    (op.conclude output).filter Instruction.isCalculation =
        [calculate op.config output op.inputs] ∧
      (op.conclude output).filter Instruction.isReceive = [] ∧
      (op.conclude output).filter Instruction.isSend = [sendBound op.dests output] := by
  unfold conclude
  cases op.config <;> exact ⟨rfl, rfl, rfl⟩

/-- The output is in the buffer when it is read. -/
theorem isPreceded_conclude (op : ComputeOp) (output id : TensorId) :
    IsPreceded (op.conclude output) (read id) (write id) := by
  refine IsPreceded.append (IsPreceded.of_not_mem ?_) ?_
  · cases hconfig : op.config <;>
      simp [calculate, Lowering.sleep, Lowering.read, Lowering.trans, Lowering.write,
        Instruction.plain]
  · by_cases hid : id = output
    · subst hid
      exact .inl (by simp)
    · refine .inr (IsPreceded.of_not_mem ?_)
      simp [Lowering.read, Lowering.trans, sendBound, Lowering.send, Instruction.plain, hid]

theorem isOutputPart_lowerOutput (op : ComputeOp) (output : TensorId) :
    op.IsOutputPart output (op.lowerOutput output) := by
  obtain ⟨hcalculated, -, hsent⟩ := op.filter_conclude output
  rw [lowerOutput_eq]
  refine ⟨?_, ?_, ?_, ?_⟩
  · rw [List.filter_append, filter_loads fun instr hmem => (kind_of_mem_loads hmem).1, hcalculated,
      List.nil_append]
  · intro instr hkind id hid
    refine IsPreceded.append (IsPreceded.of_not_mem fun hmem => ?_) (.inl (read_mem_loads.mpr hid))
    rw [(kind_of_mem_loads hmem).1] at hkind
    exact Bool.false_ne_true hkind
  · refine List.Sublist.trans ?_ (List.sublist_append_right _ _)
    exact .cons_cons _ (.cons _ (.cons_cons _ (.cons_cons _ (.cons _ (.cons_cons _ .slnil)))))
  · rw [List.filter_append, filter_loads fun instr hmem => (kind_of_mem_loads hmem).2.2, hsent,
      List.nil_append]

theorem length_lowerOutput (op : ComputeOp) (output : TensorId) :
    (op.lowerOutput output).length = 2 * op.inputs.length + 6 := by
  have hload (id : TensorId) : (load id).length = 2 := rfl
  rw [lowerOutput_eq, List.length_append, length_flatMap_of_length hload, Nat.mul_comm]
  rfl

theorem filter_receive_lowerOutput (op : ComputeOp) (output : TensorId) :
    (op.lowerOutput output).filter Instruction.isReceive = [] := by
  rw [lowerOutput_eq, List.filter_append,
    filter_loads fun instr hmem => (kind_of_mem_loads hmem).2.1, (op.filter_conclude output).2.1]
  rfl

/-! ## All outputs -/

theorem count_recv_lower (h : op.FetchesAll) (id : TensorId) :
    op.lower.count (recv id) = if id ∈ op.inputs then 1 else 0 := by
  have hreceives : op.lower.filter Instruction.isReceive = op.inputs.eraseDups.map recv := by
    unfold lower
    rw [List.filter_append, filter_receive_fetches, h.fetched_eq, List.filter_flatMap,
      List.flatMap_eq_nil_iff.mpr fun output _ => op.filter_receive_lowerOutput output,
      List.append_nil]
  have hinjective : Function.Injective recv := fun a b hsame => by
    simpa [Lowering.recv, Instruction.plain] using hsame
  calc op.lower.count (recv id)
      = (op.lower.filter Instruction.isReceive).count (recv id) := (List.count_filter rfl).symm
    _ = op.inputs.eraseDups.count id := by
        rw [hreceives, List.count_map_of_injective _ _ hinjective]
    _ = if id ∈ op.inputs then 1 else 0 := by
        rw [(nodup_eraseDups _).count]
        simp only [List.mem_eraseDups]

/-- An input has been fetched before it is read, and an output that is no input has been
written. -/
theorem isPreceded_lower (h : op.FetchesAll) (id : TensorId) :
    IsPreceded op.lower (read id) (write id) := by
  refine IsPreceded.append (IsPreceded.of_not_mem (read_not_mem_fetches _ id)) ?_
  -- An output that is an input is read before its part has written it: the fetch counts.
  by_cases hid : id ∈ op.inputs
  · exact .inl (List.mem_flatMap.mpr ⟨id, h.mem_fetched.mpr hid, by simp [fetch]⟩)
  · refine .inr (IsPreceded.flatMap fun output _ => ?_)
    rw [lowerOutput_eq]
    exact (IsPreceded.of_not_mem fun hmem => hid (read_mem_loads.mp hmem)).append
      (.inr (op.isPreceded_conclude output id))

theorem length_lower (h : op.FetchesAll) : op.lower.length =
    3 * op.inputs.toFinset.card + op.outputs.length * (2 * op.inputs.length + 6) := by
  have hfetch (id : TensorId) : (fetch id).length = 3 := rfl
  unfold lower
  rw [List.length_append, length_flatMap_of_length hfetch, h.length_fetched, Nat.mul_comm,
    length_flatMap_of_length op.length_lowerOutput]

/-- Behind the fetches each occurrence of an output has its part. -/
theorem exists_parts_lower (op : ComputeOp) : ∃ parts : List (List Instruction),
    op.lower = op.fetched.flatMap fetch ++ parts.flatten ∧
    List.Forall₂ op.IsOutputPart op.outputs parts := by
  refine ⟨op.outputs.map op.lowerOutput, ?_, ?_⟩
  · rw [← List.flatMap_def]
    rfl
  · exact List.forall₂_map_right_iff.mpr
      (List.forall₂_same.mpr fun output _ => op.isOutputPart_lowerOutput output)

theorem respectsDataFlow_lower (h : op.FetchesAll) : op.RespectsDataFlow op.lower where
  received := count_recv_lower h
  written := isPreceded_lower h
  loaded := fun instr hkind id hid => by
    refine IsPreceded.append (IsPreceded.of_not_mem fun hmem => ?_) (.inr (IsPreceded.flatMap
      fun output _ => (op.isOutputPart_lowerOutput output).loaded instr hkind id hid))
    rw [(kind_of_mem_fetches hmem).1] at hkind
    exact Bool.false_ne_true hkind
  parts := by
    obtain ⟨parts, hlower, hparts⟩ := op.exists_parts_lower
    exact ⟨_, parts, hlower, fun _ hmem => kind_of_mem_fetches hmem, hparts⟩
  length := length_lower h

end ComputeOp

/-! ## Tracks -/

theorem ManipulateOp.length_lower (op : ManipulateOp) :
    op.lower.length = op.count * (op.outputs.length + 1) := by
  unfold lower lowerRound
  rw [List.length_flatten, List.map_replicate, List.sum_replicate_nat, List.length_append,
    List.length_map]
  rfl

namespace Operator

/-- Whether all inputs of an operator are marked as not on the core. -/
def FetchesAll : Operator → Prop
  | compute op => op.FetchesAll
  | _ => True

/-- What the instructions of an operator do that fetches all its inputs. -/
def RespectsDataFlow : Operator → List Instruction → Prop
  | compute op, instrs => op.RespectsDataFlow instrs
  | manipulate op, instrs => instrs.length = op.count * (op.outputs.length + 1)
  | assemble instr, instrs => instrs = [instr]

/-- The compiler marks all inputs so. -/
theorem fetchesAll_discoverStationary (op : Operator) : op.discoverStationary.FetchesAll := by
  cases op with
  | compute op => exact fun place hplace => List.getElem?_replicate_of_lt hplace
  | manipulate op => trivial
  | assemble instr => trivial

/-- To mark the inputs so again changes nothing. -/
theorem lower_discoverStationary {op : Operator} (h : op.FetchesAll) :
    op.discoverStationary.lower = op.lower := by
  cases op with
  | compute op =>
      have hmarked : ComputeOp.FetchesAll
          { op with stationary := List.replicate op.inputs.length false } :=
        fetchesAll_discoverStationary (compute op)
      change ComputeOp.lower _ = ComputeOp.lower op
      unfold ComputeOp.lower
      rw [hmarked.fetched_eq, ComputeOp.FetchesAll.fetched_eq h]
      rfl
  | manipulate op => rfl
  | assemble instr => rfl

theorem respectsDataFlow_lower {op : Operator} (h : op.FetchesAll) :
    op.RespectsDataFlow op.lower := by
  cases op with
  | compute op => exact ComputeOp.respectsDataFlow_lower h
  | manipulate op => exact op.length_lower
  | assemble instr => rfl

end Operator

namespace Task

theorem lowerTrack_eq {ops : List Operator} (h : ∀ op ∈ ops, op.FetchesAll) :
    lowerTrack ops = ops.flatMap Operator.lower :=
  List.flatMap_congr fun op hmem => Operator.lower_discoverStationary (h op hmem)

/-- Operators whose inputs must all be fetched are lowered so that data flow is respected,
and a track is made of the instructions of its operators one after the other.  In a compiled
task all operators are of this kind. -/
theorem lowering_respects_dataFlow :
    (∀ op : Operator, op.FetchesAll → op.RespectsDataFlow op.lower) ∧
    (∀ ops : List Operator, (∀ op ∈ ops, op.FetchesAll) →
      lowerTrack ops = ops.flatMap Operator.lower) ∧
    ∀ (source : Source) (task : Task), ofSource source = .ok task →
      task.tracks = source.tracks.map (fun track => track.flatMap source.instructionsOf) ∧
      ∀ op ∈ source.operators,
        (op.bind source.dests).2.discoverStationary.RespectsDataFlow (source.instructionsOf op) :=
  ⟨fun _ h => Operator.respectsDataFlow_lower h, fun _ h => lowerTrack_eq h,
    fun _ _ h => ⟨tracks_of_ofSource h, fun _ _ =>
      Operator.respectsDataFlow_lower (Operator.fetchesAll_discoverStationary _)⟩⟩

/-- An operator with repeats, one of whose outputs is an input. -/
def repeating : ComputeOp where
  inputs := [3, 1, 3]
  outputs := [3, 2, 2]
  dests := ∅
  config := some "ab,b,ab->a"
  stationary := [false, false, false]

/-- Whether an operator is this one, asked of its parts. -/
def isRepeating : Operator → Bool
  | .compute op =>
      op.inputs = [3, 1, 3] ∧ op.outputs = [3, 2, 2] ∧ op.dests.isEmpty = true ∧
        op.config = some "ab,b,ab->a" ∧ op.stationary = [false, false, false]
  | _ => false

theorem eq_of_isRepeating {op : Operator} (h : isRepeating op = true) : op = .compute repeating := by
  cases op with
  | compute op =>
      obtain ⟨inputs, outputs, dests, config, stationary⟩ := op
      obtain ⟨rfl, rfl, hdests, rfl, rfl⟩ := of_decide_eq_true h
      obtain rfl := Std.ExtTreeMap.isEmpty_iff.mp hdests
      rfl
  | manipulate _ => simp [isRepeating] at h
  | assemble _ => simp [isRepeating] at h

/-- A text with this operator and traffic behind it. -/
def repeatingText : String :=
  "operators:\ncompute # ab,b,ab->a # 3, 2, 2 # 3, 1, 3\nmanipulate # 5 # 2 # 3\n" ++
    "data:\n3#1\n2#0,1\n"

/-- Its two inputs are received once each, and each of its three outputs has its part; the
operator is also lowered so where the text is compiled. -/
theorem repeated_operands_respect_dataFlow :
    (Operator.compute repeating).FetchesAll ∧
      (Operator.compute repeating).RespectsDataFlow repeating.lower ∧ repeating.lower.length = 42 ∧
      lowerTrack [.compute repeating, .compute repeating] = repeating.lower ++ repeating.lower ∧
      ∃ source task, Source.read repeatingText = .ok source ∧ ofSource source = .ok task ∧
        .compute repeating ∈ source.operators ∧ task.tracks.map List.length = [46] ∧
        task.tracks = source.tracks.map fun track => track.flatMap source.instructionsOf := by
  have hfetches : (Operator.compute repeating).FetchesAll := by
    change ∀ place < 3, repeating.stationary[place]? = some false
    decide
  obtain ⟨hlower, htrack, htask⟩ := lowering_respects_dataFlow
  have hfacts : (Source.read repeatingText).isOk = true ∧
      (ofSource ((Source.read repeatingText).toOption.getD .empty)).isOk = true ∧
      (∃ op ∈ ((Source.read repeatingText).toOption.getD .empty).operators,
        isRepeating op = true) ∧
      ((ofSource ((Source.read repeatingText).toOption.getD .empty)).toOption.getD
        ⟨[], .empty⟩).tracks.map List.length = [46] := by decide +kernel
  obtain ⟨hread, hcompiled, ⟨op, hmem, hop⟩, hlengths⟩ := hfacts
  rw [eq_of_isRepeating hop] at hmem
  have hsource := eq_ok_getD hcompiled ⟨[], .empty⟩
  have hpair : ∀ op ∈ [Operator.compute repeating, .compute repeating], op.FetchesAll := by
    intro op hop
    rw [List.mem_cons, List.mem_singleton, or_self] at hop
    rw [hop]
    exact hfetches
  refine ⟨hfetches, hlower _ hfetches, (hlower _ hfetches).length.trans (by decide), ?_,
    _, _, eq_ok_getD hread .empty, hsource, hmem, hlengths, (htask _ _ hsource).1⟩
  rw [htrack _ hpair, List.flatMap_cons, List.flatMap_cons, List.flatMap_nil, List.append_nil]
  rfl

end Task

end CoreArray
