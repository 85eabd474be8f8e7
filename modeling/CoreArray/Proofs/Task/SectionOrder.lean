import Mathlib.Data.List.Perm.Basic
import CoreArray.Proofs.Task.Numbers
import CoreArray.Proofs.Text.Lines
set_option autoImplicit false

/-!
# The order of sections (SPEC §4.1, §6)

A line of a section of operators works on the tracks and the open block, a line of a section
of data on the tensors and their destinations.  So lines of different sections can change
places, and so can two data lines, for a tensor may be declared once only.  A marker asks
that no block be open; it does not matter whether this is asked before the data or at the
end.

`section_order_free` puts this together: it does not matter which section comes first, in
which order the data is declared, and what lines stand between that say nothing.
-/

namespace CoreArray

/-- Steps that can each change places with each of others can be taken after them. -/
theorem foldl_past {σ α β : Type} {f : σ → α → σ} {g : σ → β → σ}
    (h : ∀ s a b, g (f s a) b = f (g s b) a) (as : List α) (bs : List β) (start : σ) :
    bs.foldl g (as.foldl f start) = as.foldl f (bs.foldl g start) := by
  induction as generalizing start with
  | nil => rfl
  | cons a as ih =>
      rw [List.foldl_cons, List.foldl_cons, ih]
      congr 1
      exact List.foldl_hom (fun s => f s a) fun s b => h s a b

namespace Task

namespace Source

/-! ## Steps on a source -/

/-- A source whose next lines are in a section. -/
def inSection (place : Section) (source : Source) : Source := { source with place }

/-- A source with the tensor of a declaration. -/
def record (d : Declaration) (source : Source) : Source :=
  { source with
    tensors := source.tensors.insert ⟨d.id, d.dims⟩
    dests := source.dests.insert d.id d.dests }

/-- Read an operator line, if possible. -/
def operatorStep (source : Source) (line : String) : Option Source :=
  (source.readOperatorLine 0 line).toOption

/-- Enter a declaration, if possible. -/
def declareStep (source : Source) (d : Declaration) : Option Source :=
  if source.tensors.contains d.id then none else some (source.record d)

/-- Read a data line, if possible. -/
def dataStep (source : Source) (line : String) : Option Source :=
  (readDeclaration 0 line).toOption.bind source.declareStep

/-- Go on only if no block is open. -/
def closedStep (source : Source) : Option Source := if source.inBlock then none else some source

theorem toOption_readDataLine (source : Source) (line : String) :
    (source.readDataLine 0 line).toOption = source.dataStep line := by
  unfold readDataLine dataStep
  rw [toOption_bind]
  congr 1
  funext d
  unfold declare declareStep
  split <;> rfl

theorem toOption_closed (source : Source) : source.closed.toOption = source.closedStep := by
  unfold closed closedStep
  split <;> rfl

/-- A change of a source that neither reads nor writes its tracks and its open block. -/
structure SparesTracks (change : Source → Source) : Prop where
  inBlock : ∀ source, (change source).inBlock = source.inBlock
  tracks : ∀ source, (change source).tracks = source.tracks
  same : ∀ (source : Source) (tracks : List (List Operator)) (inBlock : Bool),
    change { source with tracks, inBlock } = { change source with tracks, inBlock }

theorem sparesTracks_inSection (place : Section) : SparesTracks (inSection place) :=
  ⟨fun _ => rfl, fun _ => rfl, fun _ _ _ => rfl⟩

theorem sparesTracks_record (d : Declaration) : SparesTracks (record d) :=
  ⟨fun _ => rfl, fun _ => rfl, fun _ _ _ => rfl⟩

/-- Operator lines do not see such a change. -/
theorem SparesTracks.readOperatorLine {change : Source → Source} (h : SparesTracks change)
    (source : Source) (number : Nat) (line : String) :
    (change source).readOperatorLine number line =
      (source.readOperatorLine number line).map change := by
  have hsame (tracks : List (List Operator)) (inBlock : Bool) :
      (.ok { change source with tracks, inBlock } : Except Fault Source) =
        (.ok { source with tracks, inBlock } : Except Fault Source).map change :=
    congrArg Except.ok (h.same source tracks inBlock).symm
  unfold Source.readOperatorLine openBlock
  rw [h.inBlock, h.tracks]
  split
  · split
    · rfl
    · exact hsame _ _
  · split
    · split
      · exact hsame _ _
      · rfl
    · cases Operator.read line with
      | error fault => rfl
      | ok op => exact hsame _ _

theorem SparesTracks.operatorStep {change : Source → Source} (h : SparesTracks change)
    (source : Source) (line : String) :
    (change source).operatorStep line = (source.operatorStep line).map change := by
  unfold Source.operatorStep
  rw [h.readOperatorLine]
  cases source.readOperatorLine 0 line <;> rfl

theorem dataStep_inSection (place : Section) (source : Source) (line : String) :
    (source.inSection place).dataStep line = (source.dataStep line).map (inSection place) := by
  unfold dataStep
  cases (readDeclaration 0 line).toOption with
  | none => rfl
  | some d =>
      rw [Option.bind_some, Option.bind_some]
      unfold declareStep
      rw [apply_ite (Option.map (inSection place))]
      rfl

theorem closedStep_inSection (place : Section) (source : Source) :
    (source.inSection place).closedStep = source.closedStep.map (inSection place) := by
  unfold closedStep
  rw [apply_ite (Option.map (inSection place))]
  rfl

/-! ## Steps that change places -/

/-- Operator lines keep the section, the tensors and their destinations. -/
theorem same_operatorStep {source next : Source} {line : String}
    (h : source.operatorStep line = some next) :
    next.place = source.place ∧ next.tensors = source.tensors ∧ next.dests = source.dests := by
  -- To give a source what it has changes nothing.
  have hspares : SparesTracks fun other =>
      { other with place := source.place, tensors := source.tensors, dests := source.dests } :=
    ⟨fun _ => rfl, fun _ => rfl, fun _ _ _ => rfl⟩
  have hsame : source.operatorStep line = _ := hspares.operatorStep source line
  rw [h, Option.map_some] at hsame
  rw [Option.some.inj hsame]
  exact ⟨rfl, rfl, rfl⟩

/-- An operator line and a data line may be read in either order. -/
theorem operatorStep_dataStep (source : Source) (line other : String) :
    (source.operatorStep line).bind (fun next => next.dataStep other) =
      (source.dataStep other).bind fun next => next.operatorStep line := by
  unfold dataStep
  cases (readDeclaration 0 other).toOption with
  | none => cases source.operatorStep line <;> rfl
  | some d =>
      have hrecord := (sparesTracks_record d).operatorStep source line
      simp only [Option.bind_some]
      unfold declareStep
      cases hnext : source.operatorStep line with
      | none =>
          split
          · rfl
          · rw [Option.bind_some, hrecord, hnext]
            rfl
      | some next =>
          rw [Option.bind_some, (same_operatorStep hnext).2.1]
          split
          · rfl
          · rw [Option.bind_some, hrecord, hnext]
            rfl

theorem contains_record (d : Declaration) (source : Source) (id : TensorId) :
    (source.record d).tensors.contains id =
      (decide (d.id = id) || source.tensors.contains id) := by
  unfold record TensorTable.contains
  dsimp only
  rw [TensorTable.dims?_insert]
  by_cases hid : d.id = id
  · simp [hid]
  · simp [hid]

/-- Two tensors of different names may be entered in either order. -/
theorem record_record {d other : Declaration} (hne : d.id ≠ other.id) (source : Source) :
    (source.record d).record other = (source.record other).record d := by
  have htensors : (source.tensors.insert ⟨d.id, d.dims⟩).insert ⟨other.id, other.dims⟩ =
      (source.tensors.insert ⟨other.id, other.dims⟩).insert ⟨d.id, d.dims⟩ := by
    refine TensorTable.ext fun id => ?_
    simp only [TensorTable.dims?_insert]
    grind
  have hdests : (source.dests.insert d.id d.dests).insert other.id other.dests =
      (source.dests.insert other.id other.dests).insert d.id d.dests := by
    refine Std.ExtTreeMap.ext_getElem? fun id => ?_
    simp only [Std.ExtTreeMap.getElem?_insert, Std.compare_eq_iff_eq]
    grind
  unfold record
  dsimp only
  rw [htensors, hdests]

theorem declareStep_declareStep (source : Source) (d other : Declaration) :
    (source.declareStep d).bind (fun next => next.declareStep other) =
      (source.declareStep other).bind fun next => next.declareStep d := by
  have hboth (d other : Declaration) :
      (source.declareStep d).bind (fun next => next.declareStep other) =
        if d.id = other.id ∨ source.tensors.contains d.id = true ∨
          source.tensors.contains other.id = true then none
        else some ((source.record d).record other) := by
    unfold declareStep
    by_cases hknown : source.tensors.contains d.id = true
    · simp [hknown]
    · rw [if_neg hknown, Option.bind_some, contains_record]
      simp [hknown]
  rw [hboth, hboth]
  by_cases hid : d.id = other.id
  · rw [if_pos (.inl hid), if_pos (.inl hid.symm)]
  · rw [record_record hid]
    exact if_congr (or_congr eq_comm or_comm) rfl rfl

/-- Two data lines may be read in either order: with the same name, both orders fail. -/
theorem dataStep_dataStep (source : Source) (line other : String) :
    (source.dataStep line).bind (fun next => next.dataStep other) =
      (source.dataStep other).bind fun next => next.dataStep line := by
  unfold dataStep
  cases (readDeclaration 0 line).toOption with
  | none => simp
  | some d =>
      cases (readDeclaration 0 other).toOption with
      | none => simp
      | some e => exact source.declareStep_declareStep d e

theorem closedStep_dataStep (source : Source) (line : String) :
    source.closedStep.bind (fun next => next.dataStep line) =
      (source.dataStep line).bind closedStep := by
  unfold dataStep
  cases (readDeclaration 0 line).toOption with
  | none => simp
  | some d =>
      simp only [Option.bind_some]
      unfold closedStep declareStep
      by_cases hknown : source.tensors.contains d.id = true
      · simp [hknown]
      · simp only [if_neg hknown, Option.bind_some]
        cases hblock : source.inBlock with
        | true => simp [record, hblock]
        | false => simp [record, hblock, hknown]

theorem closedStep_closedStep (source : Source) :
    source.closedStep.bind closedStep = source.closedStep := by
  unfold closedStep
  by_cases hblock : source.inBlock = true
  · simp [hblock]
  · simp [hblock]

/-! ## Runs of steps -/

/-- Take a step unless an earlier one has failed. -/
def onward {α : Type} (step : Source → α → Option Source) (source? : Option Source) (a : α) :
    Option Source :=
  source?.bind fun source => step source a

/-- Steps that change places on a source do so in a run. -/
theorem onward_onward {α β : Type} {f : Source → α → Option Source}
    {g : Source → β → Option Source} {a : α} {b : β}
    (h : ∀ source, (f source a).bind (fun next => g next b) =
      (g source b).bind fun next => f next a) (source? : Option Source) :
    onward g (onward f source? a) b = onward f (onward g source? b) a := by
  unfold onward
  rw [Option.bind_assoc, Option.bind_assoc]
  exact congrArg source?.bind (funext h)

/-- Read a line that says something, if possible. -/
def takeStep (source : Source) (line : String) : Option Source :=
  (source.take 0 line).toOption

theorem foldl_onward_none {α : Type} (step : Source → α → Option Source) (as : List α) :
    as.foldl (onward step) none = none := by
  induction as with
  | nil => rfl
  | cons a as ih => exact ih

theorem toOption_readSaid (source : Source) (lines : List String) :
    (source.readSaid lines).toOption = lines.foldl (onward takeStep) (some source) := by
  induction lines generalizing source with
  | nil => rfl
  | cons line lines ih =>
      have hfirst : onward takeStep (some source) line = (source.take 0 line).toOption := rfl
      rw [readSaid, toOption_bind, List.foldl_cons, hfirst]
      cases source.take 0 line with
      | error fault => exact (foldl_onward_none takeStep lines).symm
      | ok next => exact ih next

/-- What a marker and the lines behind it do, but for the place that they leave. -/
structure Begins (marker : String) (place : Section) (step : Source → String → Option Source) :
    Prop where
  marker : ∀ source, takeStep source marker = source.closedStep.map (inSection place)
  line : ∀ source line, isMarker line = false →
    takeStep (source.inSection place) line = (step source line).map (inSection place)

theorem begins_operators : Begins "operators:" .operators operatorStep where
  marker source := by
    have hmarker : isMarker "operators:" = true := by decide +kernel
    have hword : Text.contains "operators:" "operators" = true := by decide +kernel
    have hbrace : Text.contains "operators:" "\x7b" = false := by decide +kernel
    unfold takeStep take beginSection closedStep
    rw [if_pos hmarker, if_pos hword, hbrace]
    split <;> rfl
  line source line hline := by
    rw [← (sparesTracks_inSection .operators).operatorStep]
    unfold takeStep take
    rw [if_neg (Bool.eq_false_iff.mp hline)]
    rfl

theorem begins_data : Begins "data:" .data dataStep where
  marker source := by
    have hmarker : isMarker "data:" = true := by decide +kernel
    have hword : Text.contains "data:" "operators" = false := by decide +kernel
    unfold takeStep take beginSection closedStep
    rw [if_pos hmarker, if_neg (Bool.eq_false_iff.mp hword)]
    split <;> rfl
  line source line hline := by
    rw [← dataStep_inSection, ← toOption_readDataLine]
    unfold takeStep take
    rw [if_neg (Bool.eq_false_iff.mp hline)]
    rfl

theorem Begins.foldl_lines {marker : String} {place : Section}
    {step : Source → String → Option Source} (h : Begins marker place step) {lines : List String}
    (hlines : ∀ line ∈ lines, isMarker line = false) (source? : Option Source) :
    lines.foldl (onward takeStep) (source?.map (inSection place)) =
      (lines.foldl (onward step) source?).map (inSection place) := by
  induction lines generalizing source? with
  | nil => rfl
  | cons line lines ih =>
      have hfirst : onward takeStep (source?.map (inSection place)) line =
          (onward step source? line).map (inSection place) := by
        cases source? with
        | none => rfl
        | some source => exact h.line source line (hlines line List.mem_cons_self)
      rw [List.foldl_cons, List.foldl_cons, hfirst,
        ih fun other hmem => hlines other (List.mem_cons_of_mem line hmem)]

/-- A section is read step by step, once no block is open. -/
theorem Begins.foldl_section {marker : String} {place : Section}
    {step : Source → String → Option Source} (h : Begins marker place step) {lines : List String}
    (hlines : ∀ line ∈ lines, isMarker line = false) (before : Section)
    (source? : Option Source) :
    (marker :: lines).foldl (onward takeStep) (source?.map (inSection before)) =
      (lines.foldl (onward step) (source?.bind closedStep)).map (inSection place) := by
  have hmarker : onward takeStep (source?.map (inSection before)) marker =
      (source?.bind closedStep).map (inSection place) := by
    cases source? with
    | none => rfl
    | some source =>
        have hclosed : takeStep (source.inSection before) marker = _ := h.marker _
        rw [closedStep_inSection, Option.map_map] at hclosed
        exact hclosed
  rw [List.foldl_cons, hmarker, h.foldl_lines hlines]

/-- Data lines do not see whether blocks are asked to be closed before or behind them. -/
theorem foldl_dataStep_closed (lines : List String) (source? : Option Source) :
    lines.foldl (onward dataStep) (source?.bind closedStep) =
      (lines.foldl (onward dataStep) source?).bind closedStep := by
  refine List.foldl_hom (fun source? : Option Source => source?.bind closedStep) ?_
  intro source? line
  unfold onward
  rw [Option.bind_assoc, Option.bind_assoc]
  exact congrArg source?.bind (funext fun source => source.closedStep_dataStep line)

/-- Data lines may be read in any order. -/
theorem foldl_dataStep_perm {lines others : List String} (h : lines.Perm others)
    (source? : Option Source) :
    lines.foldl (onward dataStep) source? = others.foldl (onward dataStep) source? := by
  refine h.foldl_eq' (fun line _ other _ => ?_) source?
  exact onward_onward fun source => source.dataStep_dataStep line other

/-- Data lines may be read before operator lines. -/
theorem foldl_operatorStep_past (operators data : List String) (source? : Option Source) :
    data.foldl (onward dataStep) (operators.foldl (onward operatorStep) source?) =
      operators.foldl (onward operatorStep) (data.foldl (onward dataStep) source?) := by
  refine foldl_past (fun source? line other => ?_) operators data source?
  exact onward_onward (fun source => source.operatorStep_dataStep line other) source?

end Source

/-! ## Compiling two sections -/

section Sections

open Source

variable {operators data others : List String}

/-- A source whose blocks are closed is compiled. -/
def finish (source? : Option Source) : Option Task :=
  (source?.bind closedStep).bind fun source => (ofSource source).toOption

/-- Blocks need to be closed once only. -/
theorem finish_closed (source? : Option Source) :
    finish (source?.bind closedStep) = finish source? := by
  unfold finish
  cases source? with
  | none => rfl
  | some source => rw [Option.bind_some, closedStep_closedStep]

/-- Two sections are compiled step by step. -/
theorem toOption_compileSaid {marker following : String} {place next : Section}
    {step nextStep : Source → String → Option Source} {lines nextLines : List String}
    (hfirst : Begins marker place step) (hnext : Begins following next nextStep)
    (hlines : ∀ line ∈ lines, isMarker line = false)
    (hnextLines : ∀ line ∈ nextLines, isMarker line = false) :
    (compileSaid (marker :: lines ++ following :: nextLines)).toOption =
      finish (nextLines.foldl (onward nextStep)
        ((lines.foldl (onward step) (some .empty)).bind closedStep)) := by
  unfold compileSaid
  rw [toOption_bind, toOption_bind, toOption_readSaid, List.foldl_append]
  have hstart : (marker :: lines).foldl (onward takeStep) (some .empty) =
      (lines.foldl (onward step) (some .empty)).map (inSection place) :=
    hfirst.foldl_section hlines .preamble (some .empty)
  rw [hstart, hnext.foldl_section hnextLines]
  unfold finish
  cases nextLines.foldl (onward nextStep)
      ((lines.foldl (onward step) (some .empty)).bind closedStep) with
  | none => rfl
  | some source =>
      rw [Option.map_some, Option.bind_some, Option.bind_some, toOption_closed,
        closedStep_inSection]
      -- Where the last line stands does not matter for compiling.
      cases source.closedStep <;> rfl

/-- It does not matter which section comes first and in which order the data is declared. -/
theorem toOption_compileSaid_swap (hoperators : ∀ line ∈ operators, isMarker line = false)
    (hdata : ∀ line ∈ data, isMarker line = false) (hperm : data.Perm others) :
    (compileSaid ("operators:" :: operators ++ "data:" :: data)).toOption =
      (compileSaid ("data:" :: others ++ "operators:" :: operators)).toOption := by
  have hothers : ∀ line ∈ others, isMarker line = false :=
    fun line hmem => hdata line (hperm.mem_iff.mpr hmem)
  calc
    (compileSaid ("operators:" :: operators ++ "data:" :: data)).toOption =
        finish (data.foldl (onward dataStep)
          ((operators.foldl (onward operatorStep) (some .empty)).bind closedStep)) :=
      toOption_compileSaid begins_operators begins_data hoperators hdata
    -- The end of the text asks for closed blocks anyway.
    _ = finish (data.foldl (onward dataStep)
          (operators.foldl (onward operatorStep) (some .empty))) := by
      rw [foldl_dataStep_closed, finish_closed]
    _ = finish (others.foldl (onward dataStep)
          (operators.foldl (onward operatorStep) (some .empty))) := by
      rw [foldl_dataStep_perm hperm]
    _ = finish (operators.foldl (onward operatorStep)
          (others.foldl (onward dataStep) (some .empty))) := by
      rw [foldl_operatorStep_past]
    -- Data lines open no block.
    _ = finish (operators.foldl (onward operatorStep)
          ((others.foldl (onward dataStep) (some .empty)).bind closedStep)) := by
      rw [← foldl_dataStep_closed]
      rfl
    _ = (compileSaid ("data:" :: others ++ "operators:" :: operators)).toOption :=
      (toOption_compileSaid begins_data begins_operators hothers hoperators).symm

end Sections

/-! ## Texts -/

theorem saying_cons {line : String} (h : saying [line] = [line]) (lines : List String) :
    saying (line :: lines) = line :: saying lines := by
  rw [← List.singleton_append, saying_append, h, List.singleton_append]

/-- Compiling a text made of lines is compiling what these lines say. -/
theorem toOption_compile_ofLines {lines : List String}
    (h : ∀ line ∈ lines, '\n' ∉ line.toList) :
    (compile (Text.ofLines lines)).toOption = (compileSaid (saying lines)).toOption := by
  have hsaying : saying (Text.linesOf (Text.ofLines lines)) = saying lines := by
    unfold saying
    rw [Text.trimmed_linesOf_ofLines h]
  rw [← toOption_mapError _ (Fault.atLine 0), compile_atLine, hsaying]

/-- A line that has no word of a section has none without its outer blanks. -/
theorem isMarker_of_mem_saying {lines : List String}
    (h : ∀ line ∈ lines, Source.isMarker line = false) :
    ∀ line ∈ saying lines, Source.isMarker line = false := by
  intro line hmem
  obtain ⟨raw, hraw, rfl⟩ := List.mem_map.mp (List.mem_filter.mp hmem).1
  have hnone := h raw hraw
  unfold Source.isMarker at hnone ⊢
  rw [Bool.or_eq_false_iff] at hnone ⊢
  have hword (word : String) (habsent : Text.contains raw word = false) :
      Text.contains (Text.trimmed raw) word = false :=
    Bool.eq_false_iff.mpr fun h => Bool.eq_false_iff.mp habsent (Text.contains_of_trimmed h)
  exact ⟨hword _ hnone.1, hword _ hnone.2⟩

/-- Compiling the lines of the two sections gives the same result in either order, and in
every order of the data lines, or fails in both.  Remarks between the lines of a text change
neither the result nor, but for its line, the fault. -/
theorem section_order_free :
    (∀ operators data others : List String,
      (∀ line ∈ operators ++ data, '\n' ∉ line.toList ∧ Source.isMarker line = false) →
      data.Perm others →
        (compile (Text.ofLines ("operators:" :: operators ++ "data:" :: data))).toOption =
          (compile (Text.ofLines ("data:" :: others ++ "operators:" :: operators))).toOption) ∧
    (∀ text other : String, Remarked (Text.linesOf text) (Text.linesOf other) →
      (compile other).mapError (Fault.atLine 0) = (compile text).mapError (Fault.atLine 0)) := by
  constructor
  · intro operators data others hplain hperm
    obtain ⟨hoperators, hdata⟩ := List.forall_mem_append.mp hplain
    have hothers := fun line hmem => hdata line (hperm.mem_iff.mpr hmem)
    have hfirst : saying ["operators:"] = ["operators:"] := by decide +kernel
    have hsecond : saying ["data:"] = ["data:"] := by decide +kernel
    have hlines : ∀ line ∈ "operators:" :: operators, '\n' ∉ line.toList :=
      List.forall_mem_cons.mpr ⟨by decide, fun line hmem => (hoperators line hmem).1⟩
    have hdataLines : ∀ line ∈ "data:" :: data, '\n' ∉ line.toList :=
      List.forall_mem_cons.mpr ⟨by decide, fun line hmem => (hdata line hmem).1⟩
    have hotherLines : ∀ line ∈ "data:" :: others, '\n' ∉ line.toList :=
      List.forall_mem_cons.mpr ⟨by decide, fun line hmem => (hothers line hmem).1⟩
    rw [toOption_compile_ofLines (List.forall_mem_append.mpr ⟨hlines, hdataLines⟩),
      toOption_compile_ofLines (List.forall_mem_append.mpr ⟨hotherLines, hlines⟩),
      saying_append, saying_append, saying_cons hfirst, saying_cons hsecond, saying_cons hsecond]
    refine toOption_compileSaid_swap ?_ ?_ ((hperm.map _).filter _)
    · exact isMarker_of_mem_saying fun line hmem => (hoperators line hmem).2
    · exact isMarker_of_mem_saying fun line hmem => (hdata line hmem).2
  · intro text other hremarked
    rw [compile_atLine, compile_atLine, hremarked.saying_eq]

/-- The operators of a task with two tracks. -/
def twoTrackOperators : List String :=
  ["\x7b", "compute ##2#1", "\x7d", "\x7b", "manipulate #3#1#4", "\x7d"]

/-- Its data. -/
def twoTrackData : List String := ["2#1#8", "4#0,1"]

/-- The operators before the data. -/
def twoTrackTask : String :=
  Text.ofLines ("operators:" :: twoTrackOperators ++ "data:" :: twoTrackData)

/-- The same task in another order. -/
def dataFirstTask : String :=
  Text.ofLines ("data:" :: twoTrackData.reverse ++ "operators:" :: twoTrackOperators)

/-- The same task with a blank line and a comment between its sections. -/
def remarkedTask : String :=
  Text.ofLines ("operators:" :: twoTrackOperators ++ (["", "// data"] ++ "data:" :: twoTrackData))

/-- All three texts are compiled to the same task. -/
theorem two_track_sections_swap :
    ∃ task, (compile twoTrackTask).toOption = some task ∧ task.tracks.length = 2 ∧
      (compile dataFirstTask).toOption = some task ∧
      (compile remarkedTask).toOption = some task := by
  have hfacts : (compile twoTrackTask).isOk = true ∧
      ((compile twoTrackTask).toOption.getD ⟨[], .empty⟩).tracks.length = 2 ∧
      (∀ line ∈ twoTrackOperators ++ twoTrackData,
        '\n' ∉ line.toList ∧ Source.isMarker line = false) ∧
      Text.linesOf twoTrackTask = "operators:" :: twoTrackOperators ++ "data:" :: twoTrackData ∧
      Text.linesOf remarkedTask =
        "operators:" :: twoTrackOperators ++ (["", "// data"] ++ "data:" :: twoTrackData) ∧
      ∀ line ∈ ["", "// data"], Text.isRemark (Text.trimmed line) = true := by decide +kernel
  obtain ⟨hcompile, htracks, hplain, hlines, hremarkedLines, hremarks⟩ := hfacts
  obtain ⟨horder, hremarked⟩ := section_order_free
  have htask : (compile twoTrackTask).toOption = some _ :=
    congrArg Except.toOption (eq_ok_getD hcompile ⟨[], .empty⟩)
  refine ⟨_, htask, htracks, ?_, ?_⟩
  · rw [← htask]
    exact (horder twoTrackOperators twoTrackData twoTrackData.reverse hplain
      (List.reverse_perm twoTrackData).symm).symm
  · have hsame := hremarked twoTrackTask remarkedTask (by
      rw [hlines, hremarkedLines]
      exact remarked_insert _ _ hremarks)
    rw [← htask, ← toOption_mapError _ (Fault.atLine 0), hsame, toOption_mapError]

end Task

end CoreArray
