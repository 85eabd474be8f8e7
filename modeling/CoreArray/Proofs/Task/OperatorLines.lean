import CoreArray.Proofs.Task.Lowered
set_option autoImplicit false

/-!
# Operator lines (SPEC §4.1, §6)

Which lines of a source become operators is decided by words and braces anywhere in them.
`operatorLines` says which lines these are: those of the sections of operators that contain
neither the word of a section nor a brace.  Each of them becomes one operator of one track,
in the order of the lines, and nothing else does (`operator_lines_carried`).

A line may begin with the kind of an operator and contain such a word or a brace behind it.
It is then taken for something else, and the operator is lost.
-/

namespace CoreArray

/-- The words for the kinds of operators. -/
def Operator.kinds : List String := ["compute", "manipulate", "assemble"]

namespace Task

/-! ## Lines -/

/-- The lines of a list that say something, without their outer blanks. -/
def saying (lines : List String) : List String :=
  (lines.map Text.trimmed).filter fun line => !Text.isRemark line

theorem saying_append (lines others : List String) :
    saying (lines ++ others) = saying lines ++ saying others := by
  unfold saying
  rw [List.map_append, List.filter_append]

theorem saying_cons_remark {line : String} (h : Text.isRemark (Text.trimmed line) = true)
    (lines : List String) : saying (line :: lines) = saying lines := by
  unfold saying
  rw [List.map_cons, List.filter_cons_of_neg (by simp [h])]

theorem saying_cons_said {line : String} (h : Text.isRemark (Text.trimmed line) = false)
    (lines : List String) : saying (line :: lines) = Text.trimmed line :: saying lines := by
  unfold saying
  rw [List.map_cons, List.filter_cons_of_pos (by simp [h])]

/-- Whether a line is written as an operator: what stands before its first `#` is the word
for a kind. -/
def isTyped (line : String) : Bool :=
  (Text.splitAt? '#' line).any fun (kind, _) => Operator.kinds.contains (Text.trimmed kind)

/-- Whether a line contains a brace. -/
def hasBrace (line : String) : Bool := Text.contains line "\x7b" || Text.contains line "\x7d"

/-- Whether a line that is written as an operator contains nothing that makes it a marker. -/
def isPlainOperator (line : String) : Bool :=
  isTyped line && !Source.isMarker line && !hasBrace line

/-- The section that a marker begins. -/
def sectionOf (line : String) : Section :=
  if Text.contains line "operators" then .operators else .data

/-- Of lines that follow in a section, those that become operators. -/
def operatorLinesFrom (place : Section) : List String → List String
  | [] => []
  | line :: lines =>
      if Source.isMarker line then operatorLinesFrom (sectionOf line) lines
      else if place = .operators ∧ hasBrace line = false then
        line :: operatorLinesFrom place lines
      else operatorLinesFrom place lines

/-- The lines of a text that become operators. -/
def operatorLines (text : String) : List String :=
  operatorLinesFrom .preamble (saying (Text.linesOf text))

/-- A line that becomes an operator contains neither the word of a section nor a brace. -/
theorem unmarked_of_mem_operatorLinesFrom {place : Section} {lines : List String} {line : String}
    (h : line ∈ operatorLinesFrom place lines) :
    Source.isMarker line = false ∧ hasBrace line = false := by
  induction lines generalizing place with
  | nil => simp [operatorLinesFrom] at h
  | cons first lines ih =>
      rw [operatorLinesFrom] at h
      split at h
      · exact ih h
      · next hmarker =>
          split at h
          · next hplain =>
              rcases List.mem_cons.mp h with rfl | h
              · exact ⟨Bool.eq_false_iff.mpr hmarker, hplain.2⟩
              · exact ih h
          · exact ih h

namespace Source

/-! ## Reading a line -/

/-- What a line that says something may do to a source. -/
inductive LineCase (source : Source) (line : String) (next : Source) : Prop
  /-- It begins a section. -/
  | marker (hmarker : isMarker line = true) (hplace : next.place = sectionOf line)
      (hsame : next.operators = source.operators)
  /-- It opens or closes a block. -/
  | brace (hmarker : isMarker line = false) (hbrace : hasBrace line = true)
      (hplace : next.place = source.place) (hsame : next.operators = source.operators)
  /-- It is an operator. -/
  | operator (hmarker : isMarker line = false) (hbrace : hasBrace line = false)
      (hsection : source.place = .operators) (hplace : next.place = source.place)
      (op : Operator) (hread : Operator.read line = .ok op)
      (hadded : next.operators = source.operators ++ [op])
  /-- It declares a tensor. -/
  | data (hmarker : isMarker line = false) (htyped : isTyped line = false)
      (hsection : source.place = .data) (hplace : next.place = source.place)
      (hsame : next.operators = source.operators)

/-- A kind is no number. -/
theorem signed?_of_kind {kind : String} (h : Operator.kinds.contains (Text.trimmed kind) = true) :
    Text.signed? (Text.squeezed kind) = none := by
  have hkinds : ∀ word ∈ Operator.kinds, Text.signed? (Text.squeezed word) = none := by
    decide +kernel
  rw [← Text.squeezed_trimmed]
  exact hkinds _ (List.contains_iff_mem.mp h)

/-- A data line is not written as an operator. -/
theorem isTyped_of_readDeclaration {number : Nat} {line : String} {d : Declaration}
    (h : readDeclaration number line = .ok d) : isTyped line = false := by
  cases hsplit : Text.splitAt? '#' line with
  | none =>
      unfold isTyped
      rw [hsplit, Option.any_none]
  | some pair =>
      obtain ⟨kind, body⟩ := pair
      have hhead := Text.head?_fieldsOf_squeezed (by decide) hsplit
      have hid : Text.signed? (Text.squeezed kind) ≠ none := by
        intro hnone
        have hfields (dests dims : String) :
            readFields number (Text.squeezed kind) dests dims ≠ .ok d := by
          unfold readFields
          rw [hnone]
          simp
        unfold readDeclaration at h
        split at h
        · next id dests heq =>
            rw [heq, List.head?_cons, Option.some.injEq] at hhead
            exact hfields _ _ (hhead ▸ h)
        · next id dests dims heq =>
            rw [heq, List.head?_cons, Option.some.injEq] at hhead
            exact hfields _ _ (hhead ▸ h)
        · simp at h
      unfold isTyped
      rw [hsplit, Option.any_some, Bool.eq_false_iff]
      exact fun hkind => hid (signed?_of_kind hkind)

theorem beginSection_case {source next : Source} {number : Nat} {line : String}
    (hmarker : isMarker line = true) (h : source.beginSection number line = .ok next) :
    LineCase source line next := by
  unfold beginSection at h
  split at h
  · simp at h
  · split at h
    · next hword =>
        have hplace : sectionOf line = .operators := if_pos hword
        rw [Except.ok.injEq] at h
        rw [← h]
        split
        · exact .marker hmarker hplace.symm (operators_openBlock _)
        · exact .marker hmarker hplace.symm rfl
    · next hword =>
        rw [Except.ok.injEq] at h
        rw [← h]
        exact .marker hmarker (if_neg hword).symm rfl

theorem readOperatorLine_case {source next : Source} {number : Nat} {line : String}
    (hmarker : isMarker line = false) (hsection : source.place = .operators)
    (h : source.readOperatorLine number line = .ok next) : LineCase source line next := by
  unfold readOperatorLine at h
  split at h
  · next hopens =>
      have hbrace : hasBrace line = true := by
        unfold hasBrace
        rw [hopens, Bool.true_or]
      split at h
      · simp at h
      · rw [Except.ok.injEq] at h
        rw [← h]
        exact .brace hmarker hbrace rfl source.operators_openBlock
  · split at h
    · next hcloses =>
        have hbrace : hasBrace line = true := by
          unfold hasBrace
          rw [hcloses, Bool.or_true]
        split at h
        · rw [Except.ok.injEq] at h
          rw [← h]
          exact .brace hmarker hbrace rfl rfl
        · simp at h
    · next hopens hcloses =>
        have hbrace : hasBrace line = false :=
          Bool.or_eq_false_iff.mpr ⟨Bool.eq_false_iff.mpr hopens, Bool.eq_false_iff.mpr hcloses⟩
        cases hread : Operator.read line with
        | error fault => rw [hread] at h; simp at h
        | ok op =>
            rw [hread] at h
            dsimp only at h
            rw [Except.ok.injEq] at h
            rw [← h]
            exact .operator hmarker hbrace hsection rfl op hread (flatten_addToLast op source.tracks)

/-- A line that is read says nothing or does one of these things. -/
theorem readLine_case {source next : Source} {number : Nat} {line : String}
    (h : source.readLine number line = .ok next) :
    (Text.isRemark (Text.trimmed line) = true ∧ next = source) ∨
      (Text.isRemark (Text.trimmed line) = false ∧ LineCase source (Text.trimmed line) next) := by
  unfold readLine at h
  dsimp only at h
  split at h
  · next hremark =>
      rw [Except.ok.injEq] at h
      exact .inl ⟨hremark, h.symm⟩
  · next hremark =>
      refine .inr ⟨Bool.eq_false_iff.mpr hremark, ?_⟩
      split at h
      · next hmarker => exact beginSection_case hmarker h
      · next hmarker =>
          have hmarker := Bool.eq_false_iff.mpr hmarker
          split at h
          · simp at h
          · next hsection => exact readOperatorLine_case hmarker hsection h
          · next hsection =>
              obtain ⟨d, hd, hdeclare⟩ := ok_of_bind h
              unfold declare at hdeclare
              split at hdeclare
              · simp at hdeclare
              · rw [Except.ok.injEq] at hdeclare
                rw [← hdeclare]
                exact .data hmarker (isTyped_of_readDeclaration hd) hsection rfl rfl

/-! ## Reading all lines -/

/-- What the lines from a place on have added to a source. -/
structure Adds (place : Section) (lines : List String) (added : List Operator) : Prop where
  /-- The operators added are read from the operator lines, in order. -/
  read : (operatorLinesFrom place lines).map Operator.read = added.map .ok
  /-- Among the operator lines are all that are written as operators, unless they contain a
  brace or the word of a section. -/
  typed : (operatorLinesFrom place lines).filter isTyped = lines.filter isPlainOperator

/-- A line that becomes no operator adds nothing. -/
theorem Adds.skip {place following : Section} {line : String} {lines : List String}
    {added : List Operator} (hrest : Adds following lines added)
    (hlines : operatorLinesFrom place (line :: lines) = operatorLinesFrom following lines)
    (hplain : isPlainOperator line = false) : Adds place (line :: lines) added := by
  refine ⟨by rw [hlines, hrest.read], ?_⟩
  rw [hlines, hrest.typed, List.filter_cons_of_neg (by simp [hplain])]

theorem LineCase.adds {source next : Source} {line : String} (h : LineCase source line next)
    {lines : List String} {added : List Operator} (hrest : Adds next.place lines added) :
    ∃ more, Adds source.place (line :: lines) (more ++ added) ∧
      next.operators = source.operators ++ more := by
  cases h with
  | marker hmarker hplace hsame =>
      refine ⟨[], hrest.skip ?_ (by simp [isPlainOperator, hmarker]), by rw [hsame, List.append_nil]⟩
      rw [operatorLinesFrom, if_pos hmarker, ← hplace]
  | brace hmarker hbrace hplace hsame =>
      refine ⟨[], hrest.skip ?_ (by simp [isPlainOperator, hbrace]), by rw [hsame, List.append_nil]⟩
      rw [operatorLinesFrom, if_neg (by simp [hmarker]), if_neg (by simp [hbrace]), ← hplace]
  | operator hmarker hbrace hsection hplace op hread hadded =>
      have hplain : isPlainOperator line = isTyped line := by
        simp [isPlainOperator, hmarker, hbrace]
      refine ⟨[op], ⟨?_, ?_⟩, hadded⟩
      · rw [operatorLinesFrom, if_neg (by simp [hmarker]), if_pos ⟨hsection, hbrace⟩, ← hplace,
          List.map_cons, hread, hrest.read, List.singleton_append, List.map_cons]
      · rw [operatorLinesFrom, if_neg (by simp [hmarker]), if_pos ⟨hsection, hbrace⟩, ← hplace,
          List.filter_cons, List.filter_cons, hplain, hrest.typed]
  | data hmarker htyped hsection hplace hsame =>
      refine ⟨[], hrest.skip ?_ (by simp [isPlainOperator, htyped]), by rw [hsame, List.append_nil]⟩
      rw [operatorLinesFrom, if_neg (by simp [hmarker]), if_neg (by simp [hsection]), ← hplace]

theorem readLines_adds {lines : List String} {number : Nat} {source final : Source}
    (h : source.readLines (Text.numberFrom number lines) = .ok final) :
    ∃ added, Adds source.place (saying lines) added ∧
      final.operators = source.operators ++ added := by
  induction lines generalizing number source with
  | nil =>
      rw [Text.numberFrom, readLines, Except.ok.injEq] at h
      exact ⟨[], ⟨rfl, rfl⟩, by rw [h, List.append_nil]⟩
  | cons line lines ih =>
      rw [Text.numberFrom, readLines] at h
      cases hline : source.readLine number line with
      | error fault => rw [hline] at h; simp at h
      | ok next =>
          rw [hline] at h
          obtain ⟨added, hadds, hfinal⟩ := ih h
          rcases readLine_case hline with ⟨hremark, rfl⟩ | ⟨hsaid, hcase⟩
          · rw [saying_cons_remark hremark]
            exact ⟨added, hadds, hfinal⟩
          · rw [saying_cons_said hsaid]
            obtain ⟨more, hmore, hnext⟩ := hcase.adds hadds
            exact ⟨more ++ added, hmore, by rw [hfinal, hnext, List.append_assoc]⟩

end Source

/-! ## Lowering the tracks -/

/-- The instructions of an operator of a source. -/
def Source.instructionsOf (source : Source) (op : Operator) : List Instruction :=
  (op.bind source.dests).2.discoverStationary.lower

/-- The instructions of an operator line of a source. -/
def Source.instructionsOfLine (source : Source) (line : String) : List Instruction :=
  match Operator.read line with
  | .ok op => source.instructionsOf op
  | .error _ => []

/-- Lowering the bound operators of a track gives the instructions of its operators. -/
theorem map_lowerTrack (source : Source) (tracks : List (List Operator)) :
    (tracks.map fun track => track.map fun op => (op.bind source.dests).2).map lowerTrack =
      tracks.map fun track => track.flatMap source.instructionsOf := by
  rw [List.map_map]
  refine List.map_congr_left fun track _ => ?_
  rw [Function.comp_apply, lowerTrack, List.flatMap_map]
  rfl

/-- A track consists of the instructions of its operators. -/
theorem tracks_of_ofSource {source : Source} {task : Task} (h : ofSource source = .ok task) :
    task.tracks = source.tracks.map fun track => track.flatMap source.instructionsOf := by
  obtain ⟨bound, hbound, rfl⟩ := ok_of_map h
  rw [(bindTracks_eq_ok_iff.mp hbound).2, map_lowerTrack]

theorem flatMap_instructionsOfLine (source : Source) {lines : List String} {ops : List Operator}
    (h : lines.map Operator.read = ops.map .ok) :
    lines.flatMap source.instructionsOfLine = ops.flatMap source.instructionsOf := by
  induction ops generalizing lines with
  | nil =>
      rw [List.map_nil, List.map_eq_nil_iff] at h
      rw [h]
      rfl
  | cons op ops ih =>
      rw [List.map_cons] at h
      obtain ⟨line, rest, rfl, hline, hrest⟩ := List.map_eq_cons_iff.mp h
      rw [List.flatMap_cons, List.flatMap_cons, ih hrest, Source.instructionsOfLine, hline]

/-- Lines that are read as the operators of some tracks are divided among these. -/
theorem exists_parts (source : Source) {lines : List String} {tracks : List (List Operator)}
    (h : lines.map Operator.read = tracks.flatten.map .ok) :
    ∃ parts : List (List String), parts.flatten = lines ∧
      (parts.map fun lines => lines.flatMap source.instructionsOfLine) =
        tracks.map fun track => track.flatMap source.instructionsOf := by
  induction tracks generalizing lines with
  | nil =>
      rw [List.flatten_nil, List.map_nil, List.map_eq_nil_iff] at h
      exact ⟨[], h.symm, rfl⟩
  | cons track tracks ih =>
      rw [List.flatten_cons, List.map_append] at h
      obtain ⟨first, rest, rfl, hfirst, hrest⟩ := List.map_eq_append_iff.mp h
      obtain ⟨parts, hflat, hparts⟩ := ih hrest
      refine ⟨first :: parts, by rw [List.flatten_cons, hflat], ?_⟩
      rw [List.map_cons, List.map_cons, flatMap_instructionsOfLine source hfirst, hparts]

/-! ## Compiling -/

/-- How the lines of a text end up in a task. -/
structure CarriesLines (text : String) (source : Source) (task : Task) : Prop where
  /-- The operators of all tracks are read from the operator lines, in order. -/
  read : (operatorLines text).map Operator.read = source.operators.map .ok
  /-- The operator lines are divided among the tracks: each track consists of the
  instructions of its lines. -/
  tracks : ∃ parts : List (List String), parts.flatten = operatorLines text ∧
    task.tracks = parts.map fun lines => lines.flatMap source.instructionsOfLine
  /-- Among the operator lines are all that are written as operators, unless they contain a
  brace or the word of a section. -/
  typed : (operatorLines text).filter isTyped =
    (saying (Text.linesOf text)).filter isPlainOperator
  /-- Lines with a brace or with the word of a section are not among them. -/
  unmarked : ∀ line ∈ operatorLines text, Source.isMarker line = false ∧ hasBrace line = false
  /-- So the lines that are written as operators and contain neither become operators, in
  their order. -/
  kept : (((saying (Text.linesOf text)).filter isPlainOperator).map Operator.read).Sublist
    (source.operators.map .ok)

/-- A text that is compiled loses no line that is written as an operator, except those that
contain a brace or the word of a section. -/
theorem operator_lines_carried {text : String} {task : Task} (h : compile text = .ok task) :
    ∃ source, Source.read text = .ok source ∧ CarriesLines text source task := by
  obtain ⟨source, hread, htask⟩ := ok_of_bind h
  refine ⟨source, hread, ?_⟩
  obtain ⟨whole, hlines, hclosed⟩ := ok_of_bind hread
  have hsame : whole = source := by
    split at hclosed
    · simp at hclosed
    · exact Except.ok.inj hclosed
  obtain ⟨added, hadds, hadded⟩ := Source.readLines_adds hlines
  have hoperators : source.operators = added := by rw [← hsame, hadded]; rfl
  have hops : (operatorLines text).map Operator.read = source.operators.map .ok := by
    rw [hoperators]
    exact hadds.read
  obtain ⟨parts, hflat, hparts⟩ := exists_parts source hops
  have hplain : ((saying (Text.linesOf text)).filter isPlainOperator).Sublist (operatorLines text) :=
    hadds.typed ▸ List.filter_sublist
  exact ⟨hops, ⟨parts, hflat, by rw [tracks_of_ofSource htask, hparts]⟩, hadds.typed,
    fun line hmem => unmarked_of_mem_operatorLinesFrom hmem, hops ▸ hplain.map Operator.read⟩

/-- A text with two blocks and a line behind them. -/
def twoBlocks : String :=
  "operators: \x7b\nassemble #BUS.trans 3\n\x7d\n\x7b\n\x7d\nmanipulate #2#1#3\ndata:\n3#1\n"

/-- Its two operator lines are divided among its two tracks. -/
theorem two_block_lines_carried :
    operatorLines twoBlocks = ["assemble #BUS.trans 3", "manipulate #2#1#3"] ∧
      ∃ task, compile twoBlocks = .ok task ∧ task.tracks.map List.length = [1, 2] ∧
        ∃ source, Source.read twoBlocks = .ok source ∧ CarriesLines twoBlocks source task := by
  have hfacts : (compile twoBlocks).isOk = true ∧
      ((compile twoBlocks).toOption.getD ⟨[], .empty⟩).tracks.map List.length = [1, 2] ∧
      operatorLines twoBlocks = ["assemble #BUS.trans 3", "manipulate #2#1#3"] := by decide +kernel
  obtain ⟨hcompile, hlengths, hlines⟩ := hfacts
  have htask := eq_ok_getD hcompile ⟨[], .empty⟩
  exact ⟨hlines, _, htask, hlengths, operator_lines_carried htask⟩

/-- Whether all lines that are written as operators become operators, in their order. -/
def KeepsTyped (text : String) (source : Source) : Prop :=
  (((saying (Text.linesOf text)).filter isTyped).map Operator.read).Sublist
    (source.operators.map .ok)

/-- A text with an instruction whose name contains the word of a section. -/
def dataOpcode : String := "operators:\nassemble # BUS.data 3\n"

/-- It is compiled, and the operator is lost. -/
theorem data_opcode_operator_lost :
    ¬ ∀ (text : String) (task : Task) (source : Source), compile text = .ok task →
      Source.read text = .ok source → KeepsTyped text source := by
  intro hall
  have hfacts : (compile dataOpcode).isOk = true ∧ (Source.read dataOpcode).isOk = true ∧
      ((Source.read dataOpcode).toOption.getD .empty).operators = [] ∧
      (saying (Text.linesOf dataOpcode)).filter isTyped = ["assemble # BUS.data 3"] := by
    decide +kernel
  obtain ⟨hcompile, hread, hnone, hline⟩ := hfacts
  have hkept := hall dataOpcode _ _ (eq_ok_getD hcompile ⟨[], .empty⟩) (eq_ok_getD hread .empty)
  unfold KeepsTyped at hkept
  rw [hnone, hline] at hkept
  simp at hkept

end Task

end CoreArray
