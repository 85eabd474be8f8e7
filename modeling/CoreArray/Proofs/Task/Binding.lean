import CoreArray.Task.Compile
import CoreArray.Proofs.Results
set_option autoImplicit false

/-!
# Binding outputs to destinations (SPEC §4.1)

Outputs are bound operator by operator and track by track, and what is bound is used only if
all of them have destinations.  So binding is told by two things: the first output without a
destination, if there is one (`bindTracks_eq`), and otherwise what each operator has been
bound to (`bind_bound`).
-/

namespace CoreArray

namespace Task

/-! ## One operator -/

/-- Binding gives every output its declared destinations, of which there is at least
one, and leaves what was bound to other tensors. -/
theorem bindOutputs_bound {declared bound result : Destinations} {outputs : List TensorId}
    (h : Operator.bindOutputs declared bound outputs = (.ok (), result)) (id : TensorId) :
    (id ∈ outputs → ∃ dests, declared[id]? = some dests ∧ result[id]? = some dests) ∧
    (id ∉ outputs → result[id]? = bound[id]?) := by
  induction outputs generalizing bound with
  | nil =>
      rw [Operator.bindOutputs, Prod.mk.injEq] at h
      rw [h.2]
      simp
  | cons output outputs ih =>
      rw [Operator.bindOutputs] at h
      split at h
      · next dest dests hdeclared =>
          obtain ⟨hmem, hnot⟩ := ih h
          by_cases hid : id = output
          · subst hid
            refine ⟨fun _ => ?_, fun hout => absurd List.mem_cons_self hout⟩
            by_cases hagain : id ∈ outputs
            · exact hmem hagain
            · refine ⟨dest :: dests, hdeclared, ?_⟩
              rw [hnot hagain]
              exact Std.ExtTreeMap.getElem?_insert_self
          · refine ⟨fun hin => ?_, fun hout => ?_⟩
            · exact hmem ((List.mem_cons.mp hin).resolve_left hid)
            · rw [hnot fun hin => hout (List.mem_cons_of_mem _ hin),
                Std.ExtTreeMap.getElem?_insert, if_neg]
              intro heq
              exact hid (Std.compare_eq_iff_eq.mp heq).symm
      · simp at h

/-- An operator that has been bound has the declared destinations of its outputs. -/
theorem bind_bound {declared : Destinations} {op bound : Operator}
    (h : op.bind declared = (.ok (), bound)) :
    ∃ dests : Destinations, bound = op.withDests dests ∧ ∀ output ∈ op.outputs,
      ∃ nodes, declared[output]? = some nodes ∧ dests[output]? = some nodes := by
  unfold Operator.bind at h
  dsimp only at h
  rw [Prod.mk.injEq] at h
  refine ⟨(Operator.bindOutputs declared op.dests op.outputs).2, h.2.symm, fun output hmem => ?_⟩
  have hpair : Operator.bindOutputs declared op.dests op.outputs =
      (.ok (), (Operator.bindOutputs declared op.dests op.outputs).2) := Prod.ext h.1 rfl
  exact (bindOutputs_bound hpair output).1 hmem

/-! ## The first output without destinations -/

/-- Whether a tensor has no destination. -/
def unserved (declared : Destinations) (id : TensorId) : Bool := (declared.getD id []).isEmpty

section Binding

variable (declared : Destinations)

/-- The first output without a destination is reported. -/
theorem fst_bindOutputs (bound : Destinations) (outputs : List TensorId) :
    (Operator.bindOutputs declared bound outputs).1 =
      match outputs.find? (unserved declared) with
      | some id => .error id
      | none => .ok () := by
  induction outputs generalizing bound with
  | nil => rfl
  | cons output outputs ih =>
      rw [Operator.bindOutputs]
      split
      · next dest dests hdests =>
          have hserved : unserved declared output = false := by
            unfold unserved
            rw [Std.ExtTreeMap.getD_eq_getD_getElem?, hdests]
            rfl
          rw [ih, List.find?_cons_of_neg (Bool.eq_false_iff.mp hserved)]
      · next hnone =>
          have hunserved : unserved declared output = true := by
            unfold unserved
            rw [Std.ExtTreeMap.getD_eq_getD_getElem?]
            cases hdests : declared[output]? with
            | none => rfl
            | some dests =>
                cases dests with
                | nil => rfl
                | cons dest dests => exact (hnone dest dests hdests).elim
          rw [List.find?_cons_of_pos hunserved]

theorem fst_bind (op : Operator) : (op.bind declared).1 =
    match op.outputs.find? (unserved declared) with
    | some id => .error id
    | none => .ok () :=
  fst_bindOutputs declared op.dests op.outputs

theorem bindOperators_eq (ops : List Operator) : bindOperators declared ops =
    match (ops.flatMap Operator.outputs).find? (unserved declared) with
    | some id => .error (.mismatch id)
    | none => .ok (ops.map fun op => (op.bind declared).2) := by
  induction ops with
  | nil => rfl
  | cons op ops ih =>
      -- The other operators matter only if the first one can be bound.
      have hfirst := fst_bind declared op
      rw [bindOperators, ih, List.flatMap_cons, List.find?_append]
      split
      · next id bound hbind =>
          rw [hbind] at hfirst
          split at hfirst
          · next other hfound =>
              rw [hfound, Except.error.inj hfirst]
              rfl
          · simp at hfirst
      · next bound hbind =>
          rw [hbind] at hfirst
          split at hfirst
          · simp at hfirst
          · next hfound =>
              rw [hfound, Option.none_or]
              split
              · rfl
              · rw [List.map_cons, hbind]; rfl

theorem bindTracks_eq (tracks : List (List Operator)) : bindTracks declared tracks =
    match (tracks.flatten.flatMap Operator.outputs).find? (unserved declared) with
    | some id => .error (.mismatch id)
    | none => .ok (tracks.map fun track => track.map fun op => (op.bind declared).2) := by
  induction tracks with
  | nil => rfl
  | cons track tracks ih =>
      rw [bindTracks, ih, bindOperators_eq, List.flatten_cons, List.flatMap_append,
        List.find?_append]
      cases (track.flatMap Operator.outputs).find? (unserved declared) with
      | some id => rfl
      | none =>
          dsimp only
          rw [Option.none_or]
          split <;> rfl

end Binding

variable {declared : Destinations}

/-- An operator all of whose outputs have destinations can be bound. -/
theorem bind_of_served {op : Operator}
    (h : ∀ output ∈ op.outputs, unserved declared output = false) :
    op.bind declared = (.ok (), (op.bind declared).2) := by
  have hnone : op.outputs.find? (unserved declared) = none :=
    List.find?_eq_none.mpr fun output hmem => Bool.eq_false_iff.mp (h output hmem)
  have hfirst := fst_bind declared op
  rw [hnone] at hfirst
  exact Prod.ext hfirst rfl

/-- Tracks are bound if all outputs have destinations. -/
theorem bindTracks_eq_ok_iff {tracks bound : List (List Operator)} :
    bindTracks declared tracks = .ok bound ↔
      (∀ op ∈ tracks.flatten, ∀ output ∈ op.outputs, unserved declared output = false) ∧
      bound = tracks.map fun track => track.map fun op => (op.bind declared).2 := by
  have hserved : (tracks.flatten.flatMap Operator.outputs).find? (unserved declared) = none ↔
      ∀ op ∈ tracks.flatten, ∀ output ∈ op.outputs, unserved declared output = false := by
    rw [List.find?_eq_none]
    simp only [Bool.not_eq_true, List.mem_flatMap, forall_exists_index, and_imp]
    exact ⟨fun h op hop output hmem => h output op hop hmem,
      fun h output op hop hmem => h op hop output hmem⟩
  rw [← hserved, bindTracks_eq]
  split
  · next id hfound => simp [hfound]
  · next hnone =>
      rw [Except.ok.injEq, eq_comm]
      exact ⟨fun h => ⟨hnone, h⟩, fun h => h.2⟩

end Task

end CoreArray
