import CoreArray.Log.Event
set_option autoImplicit false

/-!
# Excerpts of a log (SPEC §10.2)

Whoever may tell an event asks the watch first, each kind of event with a level of its own.
So under a watch there should be told what is told where everything is, except for the events
of which the watch does not let the level through: an `Excerpt`.  Excerpts put together are
an excerpt of what they are taken from; of each function that tells events it remains to be
shown that the watch decides nothing else.

An excerpt also says which entities the events may concern, so that it is known whose levels
decide.
-/

namespace CoreArray

namespace Watch

/-- Whether an event is told. -/
def hears (watch : Watch) (event : Event) : Bool := watch event.source event.level

end Watch

/-- Events told under a watch: those that it lets through of all events that there are,
which concern only some entities. -/
structure Excerpt (ids : List EntityId) (watch : Watch) (events full : List Event) : Prop where
  heard : events = full.filter watch.hears
  sources : ∀ event ∈ full, event.source ∈ ids

namespace Excerpt

variable {ids more : List EntityId} {watch : Watch} {events full others rest : List Event}

theorem nil : Excerpt ids watch [] [] := ⟨rfl, by simp⟩

theorem append (h : Excerpt ids watch events full) (hrest : Excerpt ids watch others rest) :
    Excerpt ids watch (events ++ others) (full ++ rest) := by
  refine ⟨by rw [h.heard, hrest.heard, List.filter_append], fun event hmem => ?_⟩
  rcases List.mem_append.mp hmem with hmem | hmem
  · exact h.sources event hmem
  · exact hrest.sources event hmem

theorem flatMap {α : Type} {list : List α} {f g : α → List Event}
    (h : ∀ value ∈ list, Excerpt ids watch (f value) (g value)) :
    Excerpt ids watch (list.flatMap f) (list.flatMap g) := by
  induction list with
  | nil => exact nil
  | cons value list ih =>
      rw [List.flatMap_cons, List.flatMap_cons]
      exact (h value List.mem_cons_self).append
        (ih fun other hmem => h other (List.mem_cons_of_mem _ hmem))

/-- An event that is asked about with its own source and level. -/
theorem ofGuard {event : Event} {source : EntityId} {level : Level} (hsource : event.source = source)
    (hlevel : event.level = level) (h : source ∈ ids) :
    Excerpt ids watch (if watch source level then [event] else []) [event] := by
  subst hsource hlevel
  refine ⟨?_, by simpa using h⟩
  rw [List.filter_cons, List.filter_nil]
  rfl

section Kinds

variable {source : EntityId} (h : source ∈ ids)
include h

theorem issue (track : Nat) (text : String) :
    Excerpt ids watch (watch.issue source track text) (Watch.everything.issue source track text) :=
  ofGuard rfl rfl h

theorem retire (track : Nat) (text : String) :
    Excerpt ids watch (watch.retire source track text)
      (Watch.everything.retire source track text) :=
  ofGuard rfl rfl h

theorem stall (track : Nat) (text : String) :
    Excerpt ids watch (watch.stall source track text) (Watch.everything.stall source track text) :=
  ofGuard rfl rfl h

theorem setCycle (cycle : Nat) :
    Excerpt ids watch (watch.setCycle source cycle) (Watch.everything.setCycle source cycle) :=
  ofGuard rfl rfl h

theorem sayAll (level : Level) (parts : List String) :
    Excerpt ids watch (watch.sayAll source level parts)
      (Watch.everything.sayAll source level parts) :=
  ofGuard rfl rfl h

theorem say (level : Level) (text : String) :
    Excerpt ids watch (watch.say source level text) (Watch.everything.say source level text) :=
  sayAll h level [text]

end Kinds

theorem mono (h : Excerpt ids watch events full) (hsub : ∀ id ∈ ids, id ∈ more) :
    Excerpt more watch events full :=
  ⟨h.heard, fun event hmem => hsub _ (h.sources event hmem)⟩

end Excerpt

end CoreArray
