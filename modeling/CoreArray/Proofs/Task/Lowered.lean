import CoreArray.Proofs.Task.Binding
set_option autoImplicit false

/-!
# What a compiled task consists of (SPEC §4.1)

`Lowered` lists the instructions to which the operators of a source are lowered, with
what compiling knows of their operands: a tensor that is sent has a declaration, the
destinations are the declared ones, and no sleep is negative.  `lowered_of_compile` says
that a task without assembled instructions consists of nothing else.

Three invariants lead there.  Reading a source keeps it sound (`Source.IsSound`),
binding gives an operator the declared destinations of its outputs
(`Operator.IsBound`), and lowering turns a bound operator into such instructions.
-/

namespace CoreArray

/-! ## Reading -/

namespace Operator

/-- Whether an operator is an instruction written as such. -/
def isAssembly : Operator → Bool
  | assemble _ => true
  | _ => false

/-- Whether an operator has no configuration. -/
def isPlain : Operator → Bool
  | compute op => op.config.isNone
  | _ => true

/-- Whether an operator waits for no negative time. -/
def isTimely : Operator → Bool
  | manipulate op => 0 ≤ op.interval
  | _ => true

theorem readInterval_nonneg {line field : String} {interval : Int}
    (h : readInterval line field = .ok interval) : 0 ≤ interval := by
  unfold readInterval at h
  split at h
  · split at h
    · next hnonneg =>
        rw [Except.ok.injEq] at h
        rw [← h]
        exact hnonneg
    · simp at h
  · simp at h

theorem isTimely_of_read {line : String} {op : Operator} (h : read line = .ok op) :
    op.isTimely = true := by
  unfold read at h
  split at h
  · simp at h
  · split at h
    · unfold readCompute at h
      split at h
      · obtain ⟨inputs, -, h⟩ := ok_of_bind h
        obtain ⟨outputs, -, h⟩ := ok_of_bind h
        cases h
        rfl
      · simp at h
    · split at h
      · unfold readManipulate at h
        split at h
        · obtain ⟨outputs, -, h⟩ := ok_of_bind h
          obtain ⟨interval, hinterval, h⟩ := ok_of_bind h
          obtain ⟨count, -, h⟩ := ok_of_bind h
          cases h
          exact decide_eq_true (readInterval_nonneg hinterval)
        · simp at h
      · split at h
        · obtain ⟨instr, -, rfl⟩ := ok_of_map (ok_of_mapError h)
          rfl
        · simp at h

end Operator

namespace Task

namespace Source

/-- What reading keeps true of a source: a tensor with destinations is known, and no
operator waits for a negative time. -/
structure IsSound (source : Source) : Prop where
  known : ∀ (id : TensorId) (dests : List Node), source.dests[id]? = some dests →
    source.tensors.contains id = true
  timely : ∀ op ∈ source.operators, op.isTimely = true

theorem flatten_addToLast (op : Operator) (tracks : List (List Operator)) :
    (addToLast op tracks).flatten = tracks.flatten ++ [op] := by
  induction tracks with
  | nil => rfl
  | cons track tracks ih =>
      cases tracks with
      | nil => simp [addToLast]
      | cons next tracks =>
          have hstep : addToLast op (track :: next :: tracks) =
              track :: addToLast op (next :: tracks) := rfl
          rw [hstep, List.flatten_cons, ih, ← List.append_assoc, ← List.flatten_cons]

/-- A source with other markers is as sound. -/
theorem IsSound.of_same {source other : Source} (h : source.IsSound)
    (htensors : other.tensors = source.tensors) (hdests : other.dests = source.dests)
    (hoperators : other.operators = source.operators) : other.IsSound := by
  refine ⟨?_, ?_⟩
  · rw [htensors, hdests]
    exact h.known
  · rw [hoperators]
    exact h.timely

theorem operators_openBlock (source : Source) : source.openBlock.operators = source.operators := by
  unfold openBlock operators
  simp

theorem IsSound.openBlock {source : Source} (h : source.IsSound) : source.openBlock.IsSound :=
  h.of_same rfl rfl source.operators_openBlock

theorem IsSound.beginSection {source other : Source} {number : Nat} {line : String}
    (h : source.IsSound) (hbegin : source.beginSection number line = .ok other) :
    other.IsSound := by
  have hplace (place : Section) : { source with place }.IsSound := h.of_same rfl rfl rfl
  unfold Source.beginSection at hbegin
  split at hbegin
  · simp at hbegin
  · split at hbegin
    · rw [Except.ok.injEq] at hbegin
      rw [← hbegin]
      split
      · exact (hplace .operators).openBlock
      · exact hplace .operators
    · rw [Except.ok.injEq] at hbegin
      rw [← hbegin]
      exact hplace .data

theorem IsSound.readOperatorLine {source other : Source} {number : Nat} {line : String}
    (h : source.IsSound) (hread : source.readOperatorLine number line = .ok other) :
    other.IsSound := by
  unfold Source.readOperatorLine at hread
  split at hread
  · split at hread
    · simp at hread
    · rw [Except.ok.injEq] at hread
      rw [← hread]
      exact h.openBlock
  · split at hread
    · split at hread
      · rw [Except.ok.injEq] at hread
        rw [← hread]
        exact h.of_same rfl rfl rfl
      · simp at hread
    · cases hop : Operator.read line with
      | error fault => rw [hop] at hread; simp at hread
      | ok op =>
          rw [hop] at hread
          dsimp only at hread
          rw [Except.ok.injEq] at hread
          rw [← hread]
          refine ⟨h.known, fun other hmem => ?_⟩
          unfold operators at hmem
          rw [flatten_addToLast, List.mem_append, List.mem_singleton] at hmem
          rcases hmem with hmem | rfl
          · exact h.timely other hmem
          · exact Operator.isTimely_of_read hop

theorem IsSound.declare {source other : Source} {number : Nat} {d : Declaration}
    (h : source.IsSound) (hdeclare : source.declare number d = .ok other) : other.IsSound := by
  unfold Source.declare at hdeclare
  split at hdeclare
  · simp at hdeclare
  · rw [Except.ok.injEq] at hdeclare
    rw [← hdeclare]
    refine ⟨fun id dests hdests => ?_, h.timely⟩
    dsimp only at hdests ⊢
    rw [Std.ExtTreeMap.getElem?_insert] at hdests
    split at hdests
    · next heq =>
        have hid := Std.compare_eq_iff_eq.mp heq
        rw [← hid]
        exact source.tensors.contains_insert_self ⟨d.id, d.dims⟩
    · exact TensorTable.contains_insert (h.known id dests hdests) _

theorem IsSound.readLine {source other : Source} {number : Nat} {line : String}
    (h : source.IsSound) (hread : source.readLine number line = .ok other) : other.IsSound := by
  unfold Source.readLine at hread
  dsimp only at hread
  split at hread
  · rw [Except.ok.injEq] at hread
    rw [← hread]
    exact h
  · split at hread
    · exact h.beginSection hread
    · split at hread
      · simp at hread
      · exact h.readOperatorLine hread
      · obtain ⟨d, -, hdeclare⟩ := ok_of_bind hread
        exact h.declare hdeclare

theorem IsSound.readLines {source other : Source} {lines : List (Nat × String)}
    (h : source.IsSound) (hread : source.readLines lines = .ok other) : other.IsSound := by
  induction lines generalizing source with
  | nil =>
      rw [Source.readLines, Except.ok.injEq] at hread
      rw [← hread]
      exact h
  | cons line lines ih =>
      rw [Source.readLines] at hread
      cases hline : source.readLine line.1 line.2 with
      | error fault => rw [hline] at hread; simp at hread
      | ok next =>
          rw [hline] at hread
          exact ih (h.readLine hline) hread

/-- Every source that has been read is sound. -/
theorem isSound_of_read {text : String} {source : Source} (h : read text = .ok source) :
    source.IsSound := by
  have hempty : empty.IsSound := ⟨by simp [empty], by simp [empty, operators]⟩
  unfold read at h
  obtain ⟨whole, hread, h⟩ := ok_of_bind h
  split at h
  · simp at h
  · cases h
    exact hempty.readLines hread

end Source

/-! ## Binding -/

/-- What is bound comes from an operator whose outputs all have destinations. -/
theorem exists_of_bindTracks {declared : Destinations} {tracks bound : List (List Operator)}
    (h : bindTracks declared tracks = .ok bound) {track : List Operator} (htrack : track ∈ bound)
    {after : Operator} (hmem : after ∈ track) :
    ∃ op ∈ tracks.flatten, op.bind declared = (.ok (), after) := by
  obtain ⟨hserved, rfl⟩ := bindTracks_eq_ok_iff.mp h
  obtain ⟨ops, hops, rfl⟩ := List.mem_map.mp htrack
  obtain ⟨op, hop, rfl⟩ := List.mem_map.mp hmem
  have hin : op ∈ tracks.flatten := List.mem_flatten.mpr ⟨ops, hops, hop⟩
  exact ⟨op, hin, bind_of_served (hserved op hin)⟩

/-! ## Lowering -/

/-- The instructions to which the operators of a source are lowered. -/
inductive Lowered (source : Source) : Instruction → Prop
  | recv (id : TensorId) : Lowered source (Lowering.recv id)
  | trans (id : TensorId) : Lowered source (Lowering.trans id)
  | read (id : TensorId) : Lowered source (Lowering.read id)
  | write (id : TensorId) : Lowered source (Lowering.write id)
  | sleep (cycles : Int) (hcycles : 0 ≤ cycles) : Lowered source (Lowering.sleep cycles)
  /-- A tensor goes to its declared destinations. -/
  | send (id : TensorId) (dests : List Node) (hdests : source.dests[id]? = some dests) :
      Lowered source (Lowering.send id dests)
  /-- Only an operator with a configuration asks for a calculation. -/
  | calculate (op : ComputeOp) (hop : .compute op ∈ source.operators) (config : String)
      (hconfig : op.config = some config) (output : TensorId) :
      Lowered source (Lowering.calculate (some config) output op.inputs)

section Lowering

variable {source : Source} {instr : Instruction}

theorem lowered_of_fetch {id : TensorId} (h : instr ∈ Lowering.fetch id) :
    Lowered source instr := by
  simp only [Lowering.fetch, List.mem_cons, List.not_mem_nil, or_false] at h
  rcases h with rfl | rfl | rfl
  · exact .recv id
  · exact .trans id
  · exact .write id

theorem lowered_of_load {id : TensorId} (h : instr ∈ Lowering.load id) :
    Lowered source instr := by
  simp only [Lowering.load, List.mem_cons, List.not_mem_nil, or_false] at h
  rcases h with rfl | rfl
  · exact .read id
  · exact .trans id

theorem lowered_of_store {id : TensorId} (h : instr ∈ Lowering.store id) :
    Lowered source instr := by
  simp only [Lowering.store, List.mem_cons, List.not_mem_nil, or_false] at h
  rcases h with rfl | rfl | rfl | rfl
  · exact .trans id
  · exact .write id
  · exact .read id
  · exact .trans id

theorem lowered_calculate {op : ComputeOp} (hop : .compute op ∈ source.operators)
    (output : TensorId) : Lowered source (Lowering.calculate op.config output op.inputs) := by
  cases hconfig : op.config with
  | none => exact .sleep 1 (by decide)
  | some config => exact .calculate op hop config hconfig output

/-- A tensor with its declared destinations is sent to these. -/
theorem lowered_sendBound {dests : Destinations} {id : TensorId}
    (h : ∃ nodes, source.dests[id]? = some nodes ∧ dests[id]? = some nodes) :
    Lowered source (Lowering.sendBound dests id) := by
  obtain ⟨nodes, hdeclared, hdests⟩ := h
  unfold Lowering.sendBound
  rw [Std.ExtTreeMap.getD_eq_getD_getElem?, hdests]
  exact .send id nodes hdeclared

/-- An operator of a source, once bound, is lowered to these instructions. -/
theorem lowered_of_bind {op bound : Operator} (hsound : source.IsSound)
    (hmem : op ∈ source.operators) (hassembly : op.isAssembly = false)
    (hbind : op.bind source.dests = (.ok (), bound))
    (hinstr : instr ∈ bound.discoverStationary.lower) : Lowered source instr := by
  obtain ⟨dests, rfl, hdests⟩ := bind_bound hbind
  cases op with
  | assemble instr => simp [Operator.isAssembly] at hassembly
  | compute op =>
      unfold Operator.withDests Operator.discoverStationary Operator.lower ComputeOp.lower at hinstr
      dsimp only at hinstr
      rw [List.mem_append, List.mem_flatMap, List.mem_flatMap] at hinstr
      rcases hinstr with ⟨id, -, hfetch⟩ | ⟨output, houtput, hinstr⟩
      · exact lowered_of_fetch hfetch
      · unfold ComputeOp.lowerOutput at hinstr
        simp only [List.mem_append, List.mem_cons, List.mem_flatMap, List.not_mem_nil,
          or_false] at hinstr
        rcases hinstr with (⟨id, -, hload⟩ | rfl | hstore) | rfl
        · exact lowered_of_load hload
        · exact lowered_calculate hmem output
        · exact lowered_of_store hstore
        · exact lowered_sendBound (hdests output houtput)
  | manipulate op =>
      have htimely := hsound.timely _ hmem
      unfold Operator.withDests Operator.discoverStationary Operator.lower ManipulateOp.lower
        at hinstr
      dsimp only at hinstr
      obtain ⟨round, hround, hinstr⟩ := List.mem_flatten.mp hinstr
      rw [List.eq_of_mem_replicate hround] at hinstr
      unfold ManipulateOp.lowerRound at hinstr
      rw [List.mem_append, List.mem_map, List.mem_singleton] at hinstr
      rcases hinstr with ⟨output, houtput, rfl⟩ | rfl
      · exact lowered_sendBound (hdests output houtput)
      · exact .sleep op.interval (of_decide_eq_true htimely)

end Lowering

/-! ## Compiling -/

theorem contains_ensureInputs {tensors : TensorTable} {id : TensorId}
    (h : tensors.contains id = true) (ops : List Operator) :
    (ensureInputs tensors ops).contains id = true := by
  unfold ensureInputs
  generalize ops.flatMap Operator.inputs = inputs
  induction inputs generalizing tensors with
  | nil => exact h
  | cons input inputs ih => exact ih (TensorTable.contains_ensure h input)

/-- A compiled task without assembled instructions consists of lowered ones, and it knows
every tensor with destinations. -/
theorem lowered_of_compile {text : String} {source : Source} {task : Task}
    (hread : Source.read text = .ok source) (hcompile : compile text = .ok task)
    (hassembly : ∀ op ∈ source.operators, op.isAssembly = false) :
    (∀ track ∈ task.tracks, ∀ instr ∈ track, Lowered source instr) ∧
      ∀ (id : TensorId) (dests : List Node), source.dests[id]? = some dests →
        task.tensors.contains id = true := by
  have hsound := Source.isSound_of_read hread
  unfold compile at hcompile
  obtain ⟨found, hfound, hsource⟩ := ok_of_bind hcompile
  rw [hread, Except.ok.injEq] at hfound
  subst hfound
  obtain ⟨tracks, hbind, rfl⟩ := ok_of_map hsource
  constructor
  · intro track htrack instr hinstr
    obtain ⟨ops, hops, rfl⟩ := List.mem_map.mp htrack
    obtain ⟨bound, hbound, hlower⟩ := List.mem_flatMap.mp hinstr
    obtain ⟨op, hop, hsame⟩ := exists_of_bindTracks hbind hops hbound
    exact lowered_of_bind hsound hop (hassembly op hop) hsame hlower
  · intro id dests hdests
    exact contains_ensureInputs (hsound.known id dests hdests) source.operators

end Task

end CoreArray
