import CoreArray.Proofs.Task.DataFlow
import CoreArray.Proofs.Task.SectionOrder
set_option autoImplicit false

/-!
# Declared destinations (SPEC §4.1, §8)

A tensor is declared by a line of a section of data (`dataLines`), and a source that has been
read knows exactly the tensors and the destinations that its lines declare (`Holds`).  From
then on two things matter: whether every output has a destination, and which inputs have no
line of their own.

An output without a destination is found in the order of the tracks, of their operators and
of the outputs of these, whether the line is missing or names no node
(`ofSource_eq`).  If there is none, the task is compiled, inputs without a line become
tensors of unknown shape, and every output is sent to the nodes of its line.
-/

namespace CoreArray

namespace TensorTable

theorem dims?_ensure (table : TensorTable) (other id : TensorId) :
    (table.ensure other).dims? id =
      (table.dims? id).or (if other = id then some [] else none) := by
  unfold ensure contains
  by_cases hid : other = id
  · subst hid
    rw [if_pos rfl]
    cases hdims : table.dims? other with
    | some dims => rw [Option.isSome_some, if_pos rfl, hdims, Option.or_some]; rfl
    | none => rw [Option.isSome_none, if_neg Bool.false_ne_true, dims?_insert_self, Option.none_or]
  · rw [if_neg hid, Option.or_none]
    split
    · rfl
    · exact dims?_insert_of_ne hid

end TensorTable

namespace Task

/-! ## Declarations -/

/-- Of lines that follow in a section, those that declare tensors. -/
def dataLinesFrom (place : Section) : List String → List String
  | [] => []
  | line :: lines =>
      if Source.isMarker line then dataLinesFrom (sectionOf line) lines
      else if place = .data then line :: dataLinesFrom place lines
      else dataLinesFrom place lines

/-- The lines of a text that declare tensors. -/
def dataLines (text : String) : List String :=
  dataLinesFrom .preamble (saying (Text.linesOf text))

namespace Source

/-- The declarations of a text. -/
def declarations (text : String) : List Declaration :=
  (dataLines text).filterMap fun line => (readDeclaration 0 line).toOption

/-- The declaration of a tensor among some. -/
def declared? (ds : List Declaration) (id : TensorId) : Option Declaration :=
  ds.find? fun d => d.id == id

/-- Whether the tables of a source are those of declarations. -/
structure Holds (ds : List Declaration) (source : Source) : Prop where
  unique : (ds.map Declaration.id).Nodup
  dims : ∀ id, source.tensors.dims? id = (declared? ds id).map Declaration.dims
  dests : ∀ id, source.dests[id]? = (declared? ds id).map Declaration.dests

variable {ds : List Declaration} {source final : Source}

theorem declared?_eq_none_iff {id : TensorId} : declared? ds id = none ↔ ∀ d ∈ ds, d.id ≠ id := by
  unfold declared?
  rw [List.find?_eq_none]
  simp only [beq_iff_eq]

theorem Holds.declared?_eq_some_iff (h : Holds ds source) {id : TensorId} {d : Declaration} :
    declared? ds id = some d ↔ d ∈ ds ∧ d.id = id := by
  constructor
  · intro hfound
    unfold declared? at hfound
    exact ⟨List.mem_of_find?_eq_some hfound, by simpa using List.find?_some hfound⟩
  · rintro ⟨hmem, rfl⟩
    cases hfound : declared? ds d.id with
    | none => exact absurd rfl (declared?_eq_none_iff.mp hfound d hmem)
    | some other =>
        unfold declared? at hfound
        have hid : other.id = d.id := by simpa using List.find?_some hfound
        rw [List.inj_on_of_nodup_map h.unique (List.mem_of_find?_eq_some hfound) hmem hid]

theorem Holds.contains_iff (h : Holds ds source) {id : TensorId} :
    source.tensors.contains id = true ↔ ∃ d ∈ ds, d.id = id := by
  unfold TensorTable.contains
  rw [h.dims, Option.isSome_map]
  unfold declared?
  rw [List.find?_isSome]
  simp only [beq_iff_eq]

theorem holds_empty : Holds [] empty := ⟨List.nodup_nil, fun _ => by simp [empty, declared?],
  fun _ => by simp [empty, declared?]⟩

theorem Holds.of_same (h : Holds ds source) (htensors : final.tensors = source.tensors)
    (hdests : final.dests = source.dests) : Holds ds final :=
  ⟨h.unique, htensors ▸ h.dims, hdests ▸ h.dests⟩

/-- A new declaration is entered behind the others. -/
theorem Holds.record (h : Holds ds source) {d : Declaration}
    (hnew : source.tensors.contains d.id = false) : Holds (ds ++ [d]) (source.record d) := by
  have hnone : ∀ other ∈ ds, other.id ≠ d.id := fun other hmem hid =>
    Bool.eq_false_iff.mp hnew (h.contains_iff.mpr ⟨other, hmem, hid⟩)
  have hlookup (id : TensorId) : declared? (ds ++ [d]) id =
      if d.id = id then some d else declared? ds id := by
    unfold declared?
    rw [List.find?_append, List.find?_singleton]
    by_cases hid : d.id = id
    · subst hid
      rw [List.find?_eq_none.mpr fun other hmem => by simpa using hnone other hmem]
      simp
    · simp [hid]
  refine ⟨?_, fun id => ?_, fun id => ?_⟩
  · rw [List.map_append, List.map_singleton, List.nodup_append]
    refine ⟨h.unique, List.nodup_singleton _, ?_⟩
    intro id hid other hother
    obtain ⟨entry, hmem, rfl⟩ := List.mem_map.mp hid
    rw [List.mem_singleton.mp hother]
    exact hnone entry hmem
  · unfold Source.record
    dsimp only
    rw [TensorTable.dims?_insert, hlookup, h.dims]
    split <;> rfl
  · unfold Source.record
    dsimp only
    rw [Std.ExtTreeMap.getElem?_insert, hlookup, h.dests]
    simp only [Std.compare_eq_iff_eq]
    split <;> rfl

/-- What a line that says something does to the tables. -/
inductive TableCase (source : Source) (line : String) (next : Source) : Prop
  /-- It declares nothing. -/
  | other (hplace : next.place = if isMarker line then sectionOf line else source.place)
      (hline : isMarker line = true ∨ source.place ≠ .data)
      (htensors : next.tensors = source.tensors) (hdests : next.dests = source.dests)
  /-- It declares a tensor that has not been declared yet. -/
  | data (hmarker : isMarker line = false) (hsection : source.place = .data) (d : Declaration)
      (hread : readDeclaration 0 line = .ok d) (hnew : source.tensors.contains d.id = false)
      (hnext : next = source.record d)

theorem take_tableCase {next : Source} {line : String} (h : source.take 0 line = .ok next) :
    TableCase source line next := by
  unfold take at h
  split at h
  · next hmarker =>
      unfold beginSection at h
      have hplace (place : Section) (hplace : place = sectionOf line) :
          place = if isMarker line then sectionOf line else source.place := by
        rw [if_pos hmarker, hplace]
      split at h
      · simp at h
      · split at h
        · next hword =>
            rw [Except.ok.injEq] at h
            rw [← h]
            split <;> exact .other (hplace _ (if_pos hword).symm) (.inl hmarker) rfl rfl
        · next hword =>
            rw [Except.ok.injEq] at h
            rw [← h]
            exact .other (hplace _ (if_neg hword).symm) (.inl hmarker) rfl rfl
  · next hmarker =>
      split at h
      · simp at h
      · next hsection =>
          obtain ⟨hplace, htensors, hdests⟩ :=
            same_operatorStep (toOption_eq_some_iff.mpr h : source.operatorStep line = some next)
          exact .other (by rw [if_neg hmarker, hplace]) (.inr (by rw [hsection]; decide)) htensors
            hdests
      · next hsection =>
          obtain ⟨d, hread, hdeclare⟩ := ok_of_bind h
          unfold declare at hdeclare
          split at hdeclare
          · simp at hdeclare
          · next hnew =>
              exact .data (Bool.eq_false_iff.mpr hmarker) hsection d hread
                (Bool.eq_false_iff.mpr hnew) (Except.ok.inj hdeclare).symm

/-- The tables hold what the data lines declare, in their order. -/
theorem Holds.readSaid {lines : List String} (h : Holds ds source)
    (hread : source.readSaid lines = .ok final) :
    ∃ added, (dataLinesFrom source.place lines).map (readDeclaration 0) = added.map .ok ∧
      Holds (ds ++ added) final := by
  -- `ds` are the declarations in the lines before, which have led to the section of `source`.
  induction lines generalizing source ds with
  | nil =>
      rw [Source.readSaid, Except.ok.injEq] at hread
      exact ⟨[], rfl, by rwa [List.append_nil, ← hread]⟩
  | cons line lines ih =>
      rw [Source.readSaid] at hread
      obtain ⟨next, hnext, hrest⟩ := ok_of_bind hread
      cases take_tableCase hnext with
      | other hplace hline htensors hdests =>
          obtain ⟨added, hadded, hholds⟩ := ih (h.of_same htensors hdests) hrest
          refine ⟨added, ?_, hholds⟩
          rw [dataLinesFrom, ← hadded, hplace]
          rcases hline with hmarker | hsection
          · rw [if_pos hmarker, if_pos hmarker]
          · rw [if_neg hsection]
            split <;> rfl
      | data hmarker hsection d hd hnew hsame =>
          have hplace : next.place = source.place := by rw [hsame]; rfl
          obtain ⟨added, hadded, hholds⟩ := ih (hsame ▸ h.record hnew) hrest
          refine ⟨d :: added, ?_, by rwa [List.append_assoc] at hholds⟩
          rw [dataLinesFrom, if_neg (Bool.eq_false_iff.mp hmarker), if_pos hsection, List.map_cons,
            hd, ← hplace, hadded, List.map_cons]

/-- A source that has been read holds the declarations of its text, and every data line is
one of them. -/
theorem holds_of_read {text : String} (h : read text = .ok source) :
    (dataLines text).map (readDeclaration 0) = (declarations text).map .ok ∧
      Holds (declarations text) source := by
  have hsaid := read_atLine text
  rw [h] at hsaid
  obtain ⟨whole, hwhole, hclosed⟩ := ok_of_bind hsaid.symm
  obtain rfl : whole = source := by
    unfold closed at hclosed
    split at hclosed
    · simp at hclosed
    · exact Except.ok.inj hclosed
  obtain ⟨added, hadded, hholds⟩ := holds_empty.readSaid hwhole
  have hall : declarations text = added := by
    have hlines : (dataLines text).map (readDeclaration 0) = added.map .ok := hadded
    calc declarations text
        = ((dataLines text).map (readDeclaration 0)).filterMap Except.toOption := by
          rw [List.filterMap_map]; rfl
      _ = added := by
          rw [hlines, List.filterMap_map]
          exact List.filterMap_some
  rw [hall]
  exact ⟨hadded, hholds⟩

end Source

/-! ## The outcome -/

/-- Compiling a source fails with its first output without a destination, and at nothing
else. -/
theorem ofSource_eq (source : Source) : ofSource source =
    match (source.operators.flatMap Operator.outputs).find? (unserved source.dests) with
    | some id => .error (.mismatch id)
    | none => .ok {
        tracks := source.tracks.map fun track => track.flatMap source.instructionsOf
        tensors := ensureInputs source.tensors source.operators } := by
  unfold ofSource Source.operators
  rw [bindTracks_eq, ← map_lowerTrack]
  cases (source.tracks.flatten.flatMap Operator.outputs).find? (unserved source.dests) <;> rfl

/-! ## Placeholders -/

theorem dims?_ensureInputs (tensors : TensorTable) (ops : List Operator) (id : TensorId) :
    (ensureInputs tensors ops).dims? id =
      (tensors.dims? id).or (if id ∈ ops.flatMap Operator.inputs then some [] else none) := by
  unfold ensureInputs
  generalize ops.flatMap Operator.inputs = inputs
  induction inputs generalizing tensors with
  | nil => simp
  | cons input inputs ih =>
      rw [List.foldl_cons, ih, TensorTable.dims?_ensure, Option.or_assoc]
      congr 1
      by_cases hid : input = id
      · simp [hid]
      · simp [hid, Ne.symm hid]

/-! ## Sends -/

/-- Of the instructions of an operator that is no instruction itself, only those send that
send its outputs. -/
theorem output_of_isSend {op : Operator} {instr : Instruction} (hassembly : op.isAssembly = false)
    (hmem : instr ∈ op.lower) (hsend : instr.isSend = true) :
    ∃ output ∈ op.outputs, instr = Lowering.sendBound op.dests output := by
  cases op with
  | assemble instr => exact absurd hassembly (by simp [Operator.isAssembly])
  | compute op =>
      rcases List.mem_append.mp hmem with hfetch | houtput
      · rw [(ComputeOp.kind_of_mem_fetches hfetch).2] at hsend
        exact absurd hsend Bool.false_ne_true
      · obtain ⟨output, houtput, hpart⟩ := List.mem_flatMap.mp houtput
        have hfilter := List.mem_filter.mpr ⟨hpart, hsend⟩
        rw [(op.isOutputPart_lowerOutput output).sent, List.mem_singleton] at hfilter
        exact ⟨output, houtput, hfilter⟩
  | manipulate op =>
      obtain ⟨round, hround, hinstr⟩ := List.mem_flatten.mp hmem
      rw [List.eq_of_mem_replicate hround] at hinstr
      unfold ManipulateOp.lowerRound at hinstr
      rw [List.mem_append, List.mem_map, List.mem_singleton] at hinstr
      rcases hinstr with ⟨output, houtput, rfl⟩ | rfl
      · exact ⟨output, houtput, rfl⟩
      · exact absurd hsend Bool.false_ne_true

/-- An operator of which no output is without destinations sends them to these. -/
theorem declared_of_isSend {source : Source} {op : Operator} {instr : Instruction}
    (hserved : ∀ output ∈ op.outputs, unserved source.dests output = false)
    (hassembly : op.isAssembly = false) (hmem : instr ∈ source.instructionsOf op)
    (hsend : instr.isSend = true) :
    ∃ output ∈ op.outputs, ∃ nodes, source.dests[output]? = some nodes ∧
      instr = Lowering.send output nodes := by
  obtain ⟨dests, hbound, hdests⟩ := bind_bound (bind_of_served hserved)
  unfold Source.instructionsOf at hmem
  rw [hbound] at hmem
  have hplain : (op.withDests dests).discoverStationary.isAssembly = false := by
    cases op <;> first | rfl | exact hassembly
  have houtputs : (op.withDests dests).discoverStationary.outputs = op.outputs := by
    cases op <;> rfl
  have hsame : (op.withDests dests).discoverStationary.dests = dests := by
    cases op <;> first | rfl | simp [Operator.isAssembly] at hassembly
  obtain ⟨output, houtput, rfl⟩ := output_of_isSend hplain hmem hsend
  rw [houtputs] at houtput
  obtain ⟨nodes, hnodes, hbelow⟩ := hdests output houtput
  refine ⟨output, houtput, nodes, hnodes, ?_⟩
  unfold Lowering.sendBound
  rw [hsame, Std.ExtTreeMap.getD_eq_getD_getElem?, hbelow, Option.getD_some]

/-! ## Compiling -/

/-- Whether a text declares a tensor with a destination. -/
def HasDestination (text : String) (id : TensorId) : Prop :=
  ∃ d ∈ Source.declarations text, d.id = id ∧ d.dests ≠ []

/-- What a text and the operators read from it say of the task that is compiled. -/
structure Fulfils (text : String) (source : Source) (task : Task) : Prop where
  /-- The tensors are the declared ones and the inputs. -/
  known : ∀ id, task.tensors.contains id = true ↔
    (∃ d ∈ Source.declarations text, d.id = id) ∨ ∃ op ∈ source.operators, id ∈ op.inputs
  /-- A declared tensor has its declared shape. -/
  declared : ∀ d ∈ Source.declarations text, task.tensors.dims? d.id = some d.dims
  /-- An input that is not declared has none. -/
  undeclared : ∀ op ∈ source.operators, ∀ id ∈ op.inputs,
    (∀ d ∈ Source.declarations text, d.id ≠ id) → task.tensors.dims? id = some []
  /-- A track is made of the instructions of its operators. -/
  tracks : task.tracks = source.tracks.map fun track => track.flatMap source.instructionsOf
  /-- If the destinations are signed 64-bit numbers, what a computation or traffic sends is
  one of its outputs, to the nodes that are declared for it. -/
  sends : (∀ d ∈ Source.declarations text, ∀ dest ∈ d.dests, dest ≤ Text.maxSigned) →
    ∀ op ∈ source.operators, op.isAssembly = false →
      ∀ instr ∈ source.instructionsOf op, instr.isSend = true →
        ∃ d ∈ Source.declarations text, d.id ∈ op.outputs ∧
          instr = .plain "NI" "send" (d.id :: d.dests.map fun dest : Node => (dest : Int))

theorem unserved_eq_false_iff {ds : List Source.Declaration} {source : Source}
    (h : source.Holds ds) {id : TensorId} :
    unserved source.dests id = false ↔ ∃ d ∈ ds, d.id = id ∧ d.dests ≠ [] := by
  unfold unserved
  rw [Std.ExtTreeMap.getD_eq_getD_getElem?, h.dests, List.isEmpty_eq_false_iff]
  cases hfound : Source.declared? ds id with
  | none =>
      refine ⟨fun hne => absurd rfl hne, ?_⟩
      rintro ⟨d, hmem, hid, -⟩
      exact absurd hid (Source.declared?_eq_none_iff.mp hfound d hmem)
  | some d =>
      rw [Option.map_some, Option.getD_some]
      obtain ⟨hmem, hid⟩ := h.declared?_eq_some_iff.mp hfound
      refine ⟨fun hne => ⟨d, hmem, hid, hne⟩, ?_⟩
      rintro ⟨other, hother, hsame, hne⟩
      have hfind := h.declared?_eq_some_iff.mpr ⟨hother, hsame⟩
      rw [hfound, Option.some.injEq] at hfind
      rwa [hfind]

theorem fulfils_of_served {text : String} {source : Source} {task : Task}
    (hholds : source.Holds (Source.declarations text)) (htask : ofSource source = .ok task)
    (htensors : task.tensors = ensureInputs source.tensors source.operators)
    (hserved : ∀ op ∈ source.operators, ∀ output ∈ op.outputs,
      unserved source.dests output = false) : Fulfils text source task where
  known id := by
    unfold TensorTable.contains
    rw [htensors, dims?_ensureInputs, Option.isSome_or, Bool.or_eq_true, ← hholds.contains_iff,
      ← List.mem_flatMap]
    exact or_congr_right (by split <;> simp [*])
  declared d hmem := by
    rw [htensors, dims?_ensureInputs, hholds.dims, hholds.declared?_eq_some_iff.mpr ⟨hmem, rfl⟩]
    rfl
  undeclared op hop id hid hnone := by
    rw [htensors, dims?_ensureInputs, hholds.dims, Source.declared?_eq_none_iff.mpr hnone,
      if_pos (List.mem_flatMap.mpr ⟨op, hop, hid⟩)]
    rfl
  tracks := tracks_of_ofSource htask
  sends hsmall op hop hassembly instr hmem hsend := by
    obtain ⟨output, houtput, nodes, hnodes, rfl⟩ :=
      declared_of_isSend (hserved op hop) hassembly hmem hsend
    rw [hholds.dests, Option.map_eq_some_iff] at hnodes
    obtain ⟨d, hfound, rfl⟩ := hnodes
    obtain ⟨hd, rfl⟩ := hholds.declared?_eq_some_iff.mp hfound
    refine ⟨d, hd, houtput, ?_⟩
    unfold Lowering.send
    rw [List.map_congr_left fun dest hdest =>
      Text.wrapSigned_of_le (hsmall d hd dest hdest)]

/-- A text whose lines can be read is compiled exactly if every output is declared with a
destination.  Otherwise the first output without one is reported, in the order of the tracks,
their operators and the outputs of these.  A compiled task has the declared tensors and
those that are only read, and sends each output to its declared nodes. -/
theorem compile_iff_destinations {text : String} {source : Source}
    (hread : Source.read text = .ok source) :
    (dataLines text).map (Source.readDeclaration 0) = (Source.declarations text).map .ok ∧
    ((Source.declarations text).map Source.Declaration.id).Nodup ∧
    ((∃ task, compile text = .ok task) ↔
      ∀ op ∈ source.operators, ∀ output ∈ op.outputs, HasDestination text output) ∧
    (∀ fault, compile text = .error fault → ∃ before id after,
      source.operators.flatMap Operator.outputs = before ++ id :: after ∧
      (∀ output ∈ before, HasDestination text output) ∧ ¬ HasDestination text id ∧
      fault = .mismatch id) ∧
    ∀ task, compile text = .ok task → Fulfils text source task := by
  obtain ⟨hlines, hholds⟩ := Source.holds_of_read hread
  have hserved (id : TensorId) : unserved source.dests id = false ↔ HasDestination text id :=
    unserved_eq_false_iff hholds
  have hcompile : compile text = ofSource source := by
    unfold compile
    rw [hread]
    rfl
  have hends := ofSource_eq source
  refine ⟨hlines, hholds.unique, ?_⟩
  rw [hcompile]
  cases hfound : (source.operators.flatMap Operator.outputs).find? (unserved source.dests) with
  | some id =>
      rw [hfound] at hends
      obtain ⟨hid, before, after, houtputs, hbefore⟩ := List.find?_eq_some_iff_append.mp hfound
      have hmissing : ¬ HasDestination text id := fun hhas =>
        Bool.eq_false_iff.mp ((hserved id).mpr hhas) hid
      rw [hends]
      refine ⟨⟨fun ⟨task, htask⟩ => (nomatch htask), fun hall => ?_⟩, ?_,
        fun task htask => (nomatch htask)⟩
      · obtain ⟨op, hop, houtput⟩ := List.mem_flatMap.mp (List.mem_of_find?_eq_some hfound)
        exact absurd (hall op hop id houtput) hmissing
      · intro fault hfault
        refine ⟨before, id, after, houtputs, fun output hmem => ?_, hmissing,
          (Except.error.inj hfault).symm⟩
        exact (hserved output).mp (by simpa using hbefore output hmem)
  | none =>
      rw [hfound] at hends
      have hall : ∀ op ∈ source.operators, ∀ output ∈ op.outputs,
          unserved source.dests output = false := fun op hop output houtput =>
        Bool.eq_false_iff.mpr (List.find?_eq_none.mp hfound output
          (List.mem_flatMap.mpr ⟨op, hop, houtput⟩))
      rw [hends]
      refine ⟨⟨fun _ op hop output houtput => (hserved output).mp (hall op hop output houtput),
        fun _ => ⟨_, rfl⟩⟩, fun fault hfault => (nomatch hfault), fun task htask => ?_⟩
      have hsame := Except.ok.inj htask
      exact fulfils_of_served hholds (hends.trans htask) (by rw [← hsame]) hall

/-- A text in which a tensor is read, made and declared at once, another one is read without
being declared, and a third one is made twice. -/
def allDeclared : String :=
  "operators:\n\x7b\ncompute ##4,2,4#1,4\n\x7d\n\x7b\nmanipulate #3#1#2\n\x7d\n" ++
    "data:\n2#1#8\n4#0,1\n"

/-- The same text with a line that names no node for one of the tensors. -/
def oneUndeclared : String :=
  "operators:\n\x7b\ncompute ##4,2,4#1,4\n\x7d\n\x7b\nmanipulate #3#1#5\n\x7d\n" ++
    "data:\n2##8\n4#0,1\n"

/-- The one is compiled, and its tensors are the declared ones and the one that is only read;
of the other, the first output without destinations is reported, not the last. -/
theorem undeclared_output_fails_compile :
    (∃ source task, Source.read allDeclared = .ok source ∧ compile allDeclared = .ok task ∧
      Fulfils allDeclared source task ∧ task.tensors.dims? 1 = some []) ∧
    ∃ source, Source.read oneUndeclared = .ok source ∧
      compile oneUndeclared = .error (.mismatch 2) ∧
      ¬ HasDestination oneUndeclared 2 := by
  have hfacts : (Source.read allDeclared).isOk = true ∧ (compile allDeclared).isOk = true ∧
      (Source.read oneUndeclared).isOk = true ∧ compile oneUndeclared = .error (.mismatch 2) ∧
      ((compile allDeclared).toOption.getD ⟨[], .empty⟩).tensors.dims? 1 = some [] := by
    decide +kernel
  obtain ⟨hread, hcompile, hreadOut, hcompileOut, hdims⟩ := hfacts
  have hsource := eq_ok_getD hread .empty
  have htask := eq_ok_getD hcompile ⟨[], .empty⟩
  have hsourceOut := eq_ok_getD hreadOut .empty
  obtain ⟨-, -, -, -, hfulfils⟩ := compile_iff_destinations hsource
  obtain ⟨-, -, -, hfails, -⟩ := compile_iff_destinations hsourceOut
  refine ⟨⟨_, _, hsource, htask, hfulfils _ htask, hdims⟩, _, hsourceOut, hcompileOut, ?_⟩
  obtain ⟨before, id, after, -, -, hmissing, hid⟩ := hfails _ hcompileOut
  rw [Fault.mismatch.inj hid]
  exact hmissing

end Task

end CoreArray
