import CoreArray.Latency
import CoreArray.Proofs.Task.Numbers
import CoreArray.Proofs.Text.Words
set_option autoImplicit false

/-!
# The last entries of latency tables (SPEC §4.2)

A latency table is read line by line, and a later entry replaces an earlier one for the same
operation.  `statedCost?` is what one line says of an operation, and with it `read_eq_ok_iff`
says all about reading a table: it succeeds if every line that says something is an entry, and
the cost of an operation is the one that the last line about it states.

So tables compose.  The lines of two texts, one after the other, make the table in which the
second text is asked first (`last_entries_win`).
-/

namespace CoreArray

/-! ## What texts say -/

namespace Task

/-- What the pieces between line feeds say does not depend on how the last line ends. -/
theorem saying_linesOfPieces (pieces : List (List Char)) :
    saying ((Text.linesOfPieces pieces).map String.ofList) =
      saying ((pieces.map Text.dropReturn).map String.ofList) := by
  induction pieces using Text.linesOfPieces.induct with
  | case1 => rfl
  | case2 last hempty =>
      rw [List.isEmpty_iff.mp hempty]
      decide +kernel
  | case3 last hfull =>
      rw [Text.linesOfPieces, if_neg hfull]
      unfold saying Text.trimmed
      simp only [List.map_singleton, String.toList_ofList, Text.trim_dropReturn]
  | case4 piece pieces hmore ih =>
      rw [Text.linesOfPieces.eq_3 piece pieces hmore, List.map_cons, List.map_cons, List.map_cons,
        ← List.singleton_append, saying_append, ih, ← saying_append, List.singleton_append]

/-- A line feed at the end of a text changes nothing of what it says. -/
theorem saying_linesOf_feed (text : String) :
    saying (Text.linesOf (text ++ "\n")) = saying (Text.linesOf text) := by
  have hfeed : "\n".toList = ['\n'] := rfl
  unfold Text.linesOf Text.lines
  rw [String.toList_append, hfeed, Text.cuts_append (by rfl),
    Text.linesOfPieces_append _ (Text.cuts_ne_nil _ _), saying_linesOfPieces]
  exact congrArg (fun pieces => saying (pieces.map String.ofList)) (List.append_nil _)

/-- Two texts with a line feed between them say what both say. -/
theorem saying_linesOf_append (front back : String) :
    saying (Text.linesOf (front ++ "\n" ++ back)) =
      saying (Text.linesOf front) ++ saying (Text.linesOf back) := by
  rw [Text.linesOf_append (.inr ⟨front, rfl⟩), saying_append, saying_linesOf_feed]

end Task

namespace UnitName

theorem ofText?_eq_some_iff {name : String} {unit : UnitName} :
    ofText? name = some unit ↔ name = unit.text := by
  constructor
  · intro h
    exact (eq_of_beq (List.find?_some h :)).symm
  · rintro rfl
    exact ofText?_text unit

theorem mem_all (unit : UnitName) : unit ∈ all := by cases unit <;> decide

end UnitName

namespace LatencyTable

open CoreArray.Task (saying Remarked)

/-- The cost of an operation of a component given by name. -/
def costOf? (table : LatencyTable) (component opcode : String) : Option Binary64 :=
  (UnitName.ofText? component).bind fun unit => table.cost? unit opcode

/-- The cost that a line states for an operation. -/
def statedCost? (unit : UnitName) (opcode line : String) : Option Binary64 :=
  match Text.wordsOf line with
  | [key, word] => if key = unit.text ++ "." ++ opcode then readCost word else none
  | _ => none

/-- Whether a line states the cost of an operation. -/
def IsEntry (line : String) : Prop :=
  ∃ (unit : UnitName) (opcode : String) (cost : Binary64), statedCost? unit opcode line = some cost

/-- The cost that the last of the lines about an operation states for it. -/
def lastCost? (unit : UnitName) (opcode : String) (lines : List String) : Option Binary64 :=
  lines.reverse.findSome? (statedCost? unit opcode)

/-! ## Look-ups -/

section Lookups

variable {table next : LatencyTable} {unit : UnitName} {opcode line : String} {cost : Binary64}

/-- Tables with the same costs are equal. -/
theorem ext_cost? (h : ∀ unit opcode, table.cost? unit opcode = next.cost? unit opcode) :
    table = next := by
  have hcosts (unit : UnitName) : table.costs unit = next.costs unit :=
    Std.ExtTreeMap.ext_getElem? (h unit)
  obtain ⟨bus, cpu, acc, buffer, ni⟩ := table
  obtain ⟨bus', cpu', acc', buffer', ni'⟩ := next
  exact (mk.injEq ..).mpr ⟨hcosts .bus, hcosts .cpu, hcosts .acc, hcosts .buffer, hcosts .ni⟩

theorem cost?_empty : empty.cost? unit opcode = none := by
  cases unit <;> simp [empty, cost?, costs]

theorem costOf?_text : table.costOf? unit.text opcode = table.cost? unit opcode := by
  unfold costOf?
  rw [UnitName.ofText?_text, Option.bind_some]

theorem lastCost?_append (lines others : List String) :
    lastCost? unit opcode (lines ++ others) =
      (lastCost? unit opcode others).or (lastCost? unit opcode lines) := by
  unfold lastCost?
  rw [List.reverse_append, List.findSome?_append]

theorem lastCost?_singleton : lastCost? unit opcode [line] = statedCost? unit opcode line := by
  unfold lastCost?
  rw [List.reverse_singleton, List.findSome?_singleton]

theorem statedCost?_eq_some_iff : statedCost? unit opcode line = some cost ↔
    ∃ word, Text.wordsOf line = [unit.text ++ "." ++ opcode, word] ∧ readCost word = some cost := by
  constructor
  · intro h
    unfold statedCost? at h
    split at h
    · next key word hwords =>
        split at h
        · next hkey => exact ⟨word, hkey ▸ hwords, h⟩
        · nomatch h
    · nomatch h
  · rintro ⟨word, hwords, hcost⟩
    unfold statedCost?
    rw [hwords]
    exact (if_pos rfl).trans hcost

/-- A cost in a text is finite and not negative. -/
theorem sound_of_statedCost? (h : statedCost? unit opcode line = some cost) :
    cost.isNonneg = true ∧ cost.isFinite = true := by
  obtain ⟨word, -, hcost⟩ := statedCost?_eq_some_iff.mp h
  exact (Bool.and_eq_true _ _).mp (Option.filter_eq_some_iff.mp hcost).2

end Lookups

/-! ## Lines -/

section Lines

variable {table next : LatencyTable} {unit : UnitName} {opcode line : String} {cost : Binary64}
  {number : Nat} {lines : List String}

/-- The unit of an operation stands before the first dot. -/
theorem splitAt?_key (unit : UnitName) (opcode : String) :
    Text.splitAt? '.' (unit.text ++ "." ++ opcode) = some (unit.text, opcode) := by
  have hdot : '.' ∉ unit.text.toList := by cases unit <;> decide
  exact Text.splitAt?_dot_eq_some_iff.mpr ⟨rfl, hdot⟩

/-- The name of an operation gives its unit and its opcode. -/
theorem key_inj {other : UnitName} {op : String} :
    unit.text ++ "." ++ opcode = other.text ++ "." ++ op ↔ unit = other ∧ opcode = op := by
  constructor
  · intro h
    have hsplit := congrArg (Text.splitAt? '.') h
    rw [splitAt?_key, splitAt?_key, Option.some.injEq, Prod.mk.injEq] at hsplit
    obtain ⟨htext, hopcode⟩ := hsplit
    refine ⟨Option.some.inj ?_, hopcode⟩
    rw [← UnitName.ofText?_text unit, htext, UnitName.ofText?_text]
  · rintro ⟨rfl, rfl⟩
    rfl

/-- A line states the cost of one operation only. -/
theorem statedCost?_of_stated (h : statedCost? unit opcode line = some cost) (other : UnitName)
    (op : String) :
    statedCost? other op line = if unit = other ∧ opcode = op then some cost else none := by
  obtain ⟨word, hwords, hcost⟩ := statedCost?_eq_some_iff.mp h
  unfold statedCost?
  rw [hwords]
  simp only [key_inj, hcost]

/-- To enter a line that says something is to set the cost that it states. -/
theorem enterLine_eq_ok_iff (hsaid : Text.isRemark (Text.trimmed line) = false) :
    table.enterLine number line = .ok next ↔
      ∃ unit opcode cost, statedCost? unit opcode (Text.trimmed line) = some cost ∧
        next = table.set unit opcode cost := by
  unfold enterLine
  dsimp only
  rw [hsaid, if_neg Bool.false_ne_true]
  constructor
  · intro hentered
    split at hentered
    · next key word hwords =>
        split at hentered
        · nomatch hentered
        · next component opcode hsplit =>
            split at hentered
            · nomatch hentered
            · next cost hcost =>
                unfold insert at hentered
                split at hentered
                · next unit hunit =>
                    rw [(Text.splitAt?_dot_eq_some_iff.mp hsplit).1,
                      UnitName.ofText?_eq_some_iff.mp hunit] at hwords
                    exact ⟨unit, opcode, cost, statedCost?_eq_some_iff.mpr ⟨word, hwords, hcost⟩,
                      (Except.ok.inj hentered).symm⟩
                · nomatch hentered
    · nomatch hentered
  · rintro ⟨unit, opcode, cost, hstated, rfl⟩
    obtain ⟨word, hwords, hcost⟩ := statedCost?_eq_some_iff.mp hstated
    simp only [hwords, splitAt?_key, hcost, insert, UnitName.ofText?_text]

theorem cost?_of_enterLine (hsaid : Text.isRemark (Text.trimmed line) = false)
    (h : table.enterLine number line = .ok next) : IsEntry (Text.trimmed line) ∧
      ∀ unit opcode, next.cost? unit opcode =
        (statedCost? unit opcode (Text.trimmed line)).or (table.cost? unit opcode) := by
  obtain ⟨unit, opcode, cost, hstated, rfl⟩ := (enterLine_eq_ok_iff hsaid).mp h
  refine ⟨⟨unit, opcode, cost, hstated⟩, fun other op => ?_⟩
  rw [cost?_set, statedCost?_of_stated hstated]
  split <;> rfl

theorem enterLines_cons_eq_ok_iff {entries : List (Nat × String)} :
    table.enterLines ((number, line) :: entries) = .ok next ↔
      ∃ middle, table.enterLine number line = .ok middle ∧
        middle.enterLines entries = .ok next := by
  rw [enterLines]
  cases table.enterLine number line with
  | error fault => simp
  | ok middle => simp

/-- Lines that are entered state costs, of which the last ones are kept. -/
theorem cost?_of_enterLines (h : table.enterLines (Text.numberFrom number lines) = .ok next) :
    (∀ line ∈ saying lines, IsEntry line) ∧ ∀ unit opcode,
      next.cost? unit opcode =
        (lastCost? unit opcode (saying lines)).or (table.cost? unit opcode) := by
  induction lines generalizing number table with
  | nil =>
      cases h
      exact ⟨fun line hmem => absurd hmem List.not_mem_nil, fun unit opcode => rfl⟩
  | cons line lines ih =>
      obtain ⟨middle, hmiddle, hrest⟩ := enterLines_cons_eq_ok_iff.mp h
      obtain ⟨hentries, hcosts⟩ := ih hrest
      cases hsaid : Text.isRemark (Text.trimmed line) with
      | true =>
          obtain rfl : table = middle := Except.ok.inj ((if_pos hsaid).symm.trans hmiddle)
          rw [Task.saying_cons_remark hsaid]
          exact ⟨hentries, hcosts⟩
      | false =>
          obtain ⟨hentry, hcost⟩ := cost?_of_enterLine hsaid hmiddle
          rw [Task.saying_cons_said hsaid]
          refine ⟨List.forall_mem_cons.mpr ⟨hentry, hentries⟩, fun unit opcode => ?_⟩
          rw [hcosts, hcost, ← List.singleton_append, lastCost?_append, lastCost?_singleton,
            Option.or_assoc]

/-- Lines that state costs can be entered. -/
theorem exists_enterLines (table : LatencyTable) (number : Nat)
    (h : ∀ line ∈ saying lines, IsEntry line) :
    ∃ next, table.enterLines (Text.numberFrom number lines) = .ok next := by
  induction lines generalizing number table with
  | nil => exact ⟨table, rfl⟩
  | cons line lines ih =>
      -- A remark leaves the table as it is, an entry sets a cost.
      obtain ⟨middle, hmiddle, hrest⟩ : ∃ middle, table.enterLine number line = .ok middle ∧
          ∀ line ∈ saying lines, IsEntry line := by
        cases hsaid : Text.isRemark (Text.trimmed line) with
        | true =>
            rw [Task.saying_cons_remark hsaid] at h
            exact ⟨table, if_pos hsaid, h⟩
        | false =>
            rw [Task.saying_cons_said hsaid, List.forall_mem_cons] at h
            obtain ⟨⟨unit, opcode, cost, hstated⟩, hrest⟩ := h
            exact ⟨_, (enterLine_eq_ok_iff hsaid).mpr ⟨unit, opcode, cost, hstated, rfl⟩, hrest⟩
      obtain ⟨next, hnext⟩ := ih middle (number + 1) hrest
      exact ⟨next, enterLines_cons_eq_ok_iff.mpr ⟨middle, hmiddle, hnext⟩⟩

end Lines

/-! ## Texts -/

section Texts

variable {text opcode : String} {table : LatencyTable} {cost : Binary64}

/-- A text is a table if every line that says something states a cost, and the cost of an
operation is the one that is stated last. -/
theorem read_eq_ok_iff :
    read text = .ok table ↔
      (∀ line ∈ saying (Text.linesOf text), IsEntry line) ∧ ∀ unit opcode,
        table.cost? unit opcode = lastCost? unit opcode (saying (Text.linesOf text)) := by
  have hread {found : LatencyTable} (h : read text = .ok found) :
      (∀ line ∈ saying (Text.linesOf text), IsEntry line) ∧ ∀ unit opcode,
        found.cost? unit opcode = lastCost? unit opcode (saying (Text.linesOf text)) := by
    obtain ⟨hentries, hcosts⟩ := cost?_of_enterLines h
    refine ⟨hentries, fun unit opcode => ?_⟩
    rw [hcosts, cost?_empty, Option.or_none]
  constructor
  · exact hread
  · rintro ⟨hentries, hcosts⟩
    obtain ⟨found, hfound⟩ := exists_enterLines empty 1 hentries
    have hsame : found = table := ext_cost? fun unit opcode =>
      ((hread hfound).2 unit opcode).trans (hcosts unit opcode).symm
    exact hsame ▸ hfound

theorem exists_read_iff :
    (∃ table, read text = .ok table) ↔ ∀ line ∈ saying (Text.linesOf text), IsEntry line :=
  ⟨fun ⟨_, h⟩ => (read_eq_ok_iff.mp h).1, exists_enterLines empty 1⟩

theorem costOf?_eq_some_iff {component : String} :
    table.costOf? component opcode = some cost ↔
      ∃ unit : UnitName, component = unit.text ∧ table.cost? unit opcode = some cost := by
  unfold costOf?
  rw [Option.bind_eq_some_iff]
  simp only [UnitName.ofText?_eq_some_iff]

/-- The costs in a table are those of units, and they are finite and not negative. -/
theorem sound_of_costOf? {component : String} (hread : read text = .ok table)
    (hcost : table.costOf? component opcode = some cost) :
    component ∈ UnitName.all.map UnitName.text ∧
      cost.isNonneg = true ∧ cost.isFinite = true := by
  obtain ⟨unit, rfl, hunit⟩ := costOf?_eq_some_iff.mp hcost
  rw [(read_eq_ok_iff.mp hread).2] at hunit
  obtain ⟨line, -, hstated⟩ := List.exists_of_findSome?_eq_some hunit
  exact ⟨List.mem_map_of_mem unit.mem_all, sound_of_statedCost? hstated⟩

/-- In the table of two texts, the second one is asked first. -/
theorem read_append_iff {front back : String} :
    read (front ++ "\n" ++ back) = .ok table ↔
      ∃ first second, read front = .ok first ∧ read back = .ok second ∧
        ∀ component opcode, table.costOf? component opcode =
          (second.costOf? component opcode).or (first.costOf? component opcode) := by
  have hall : (∀ line ∈ saying (Text.linesOf (front ++ "\n" ++ back)), IsEntry line) ↔
      (∃ first, read front = .ok first) ∧ ∃ second, read back = .ok second := by
    rw [Task.saying_linesOf_append, List.forall_mem_append, exists_read_iff, exists_read_iff]
  constructor
  · intro h
    obtain ⟨hentries, hcosts⟩ := read_eq_ok_iff.mp h
    obtain ⟨⟨first, hfirst⟩, second, hsecond⟩ := hall.mp hentries
    refine ⟨first, second, hfirst, hsecond, fun component opcode => ?_⟩
    unfold costOf?
    cases UnitName.ofText? component with
    | none => rfl
    | some unit =>
        rw [Option.bind_some, Option.bind_some, Option.bind_some, hcosts,
          (read_eq_ok_iff.mp hfirst).2, (read_eq_ok_iff.mp hsecond).2,
          Task.saying_linesOf_append, lastCost?_append]
  · rintro ⟨first, second, hfirst, hsecond, hcosts⟩
    refine read_eq_ok_iff.mpr ⟨hall.mpr ⟨⟨first, hfirst⟩, second, hsecond⟩, fun unit opcode => ?_⟩
    have hcost := hcosts unit.text opcode
    rw [costOf?_text, costOf?_text, costOf?_text] at hcost
    rw [hcost, (read_eq_ok_iff.mp hfirst).2, (read_eq_ok_iff.mp hsecond).2,
      Task.saying_linesOf_append, lastCost?_append]

end Texts

/-- Reading succeeds on a text, a line feed and another text exactly if it succeeds on both,
and the cost of an operation is that in the second table, or else that in the first.  All lines
of a table that say something state the cost of an operation of a unit, of which the last one
is kept, and all costs are finite and not negative.  Remarks between the lines of a text change
neither whether it can be read nor the table. -/
theorem last_entries_win :
    (∀ (front back : String) (table : LatencyTable),
      read (front ++ "\n" ++ back) = .ok table ↔
        ∃ first second, read front = .ok first ∧ read back = .ok second ∧
          ∀ component opcode, table.costOf? component opcode =
            (second.costOf? component opcode).or (first.costOf? component opcode)) ∧
    (∀ (text : String) (table : LatencyTable), read text = .ok table →
      (∀ line ∈ saying (Text.linesOf text), IsEntry line) ∧
        (∀ unit opcode,
          table.cost? unit opcode = lastCost? unit opcode (saying (Text.linesOf text))) ∧
        ∀ component opcode cost, table.costOf? component opcode = some cost →
          component ∈ UnitName.all.map UnitName.text ∧
            cost.isNonneg = true ∧ cost.isFinite = true) ∧
    (∀ text other : String, Remarked (Text.linesOf text) (Text.linesOf other) →
      (read other).toOption = (read text).toOption) := by
  refine ⟨fun front back table => ?_, fun text table hread => ?_, fun text other hremarked => ?_⟩
  · exact read_append_iff
  · obtain ⟨hentries, hcosts⟩ := read_eq_ok_iff.mp hread
    exact ⟨hentries, hcosts, fun component opcode cost hcost => sound_of_costOf? hread hcost⟩
  · refine Option.ext fun table => ?_
    rw [toOption_eq_some_iff, toOption_eq_some_iff, read_eq_ok_iff, read_eq_ok_iff,
      hremarked.saying_eq]

/-- The costs of two operations. -/
def firstCosts : String := "BUS.trans 2\nCPU.sleep 1"

/-- Another cost of one of them, and that of a third one. -/
def laterCosts : String := "BUS.trans 0.5\nACC.cal 64\n"

/-- The latter behind a blank line and a comment. -/
def remarkedLaterCosts : String := "\n// faster\nBUS.trans 0.5\nACC.cal 64\n"

/-- The later cost is kept, and remarks change nothing. -/
theorem later_cost_kept :
    ∃ table, read (firstCosts ++ "\n" ++ laterCosts) = .ok table ∧
      table.costOf? "BUS" "trans" = Binary64.ofString? "0.5" ∧
      table.costOf? "CPU" "sleep" = Binary64.ofString? "1" ∧
      table.costOf? "ACC" "cal" = Binary64.ofString? "64" ∧
      (∀ component opcode cost, table.costOf? component opcode = some cost →
        component ∈ UnitName.all.map UnitName.text ∧
          cost.isNonneg = true ∧ cost.isFinite = true) ∧
      (read remarkedLaterCosts).toOption = (read laterCosts).toOption := by
  obtain ⟨hcompose, hsound, hremarks⟩ := last_entries_win
  have hread : read (firstCosts ++ "\n" ++ laterCosts) = .ok _ :=
    eq_ok_getD (by decide +kernel) empty
  obtain ⟨first, second, hfirst, hsecond, hcosts⟩ := (hcompose _ _ _).mp hread
  have hfirstRead : read firstCosts = .ok _ := eq_ok_getD (by decide +kernel) empty
  have hlaterRead : read laterCosts = .ok _ := eq_ok_getD (by decide +kernel) empty
  obtain rfl := Except.ok.inj (hfirst.symm.trans hfirstRead)
  obtain rfl := Except.ok.inj (hsecond.symm.trans hlaterRead)
  have hremarked : Remarked (Text.linesOf laterCosts) (Text.linesOf remarkedLaterCosts) := by
    have hlines : Text.linesOf remarkedLaterCosts =
        [] ++ (["", "// faster"] ++ Text.linesOf laterCosts) := by decide +kernel
    rw [hlines]
    exact Task.remarked_insert [] _ (by decide +kernel)
  exact ⟨_, hread, (hcosts _ _).trans (by decide +kernel), (hcosts _ _).trans (by decide +kernel),
    (hcosts _ _).trans (by decide +kernel), (hsound _ _ hread).2.2, hremarks _ _ hremarked⟩

end LatencyTable

end CoreArray
