import RecordQuery.Proofs.Query.Filter

/-!
# What steps set

A step sets what it is for and leaves the rest of the query alone, so that of several steps for the
same thing the last one counts, wherever it stands among the others.
-/
namespace RecordQuery.Query

/-- The style of booleans that a step sets. -/
def Step.style? : Step → Option BooleanStyle
  | .style s => some s
  | _ => none

/-- The local predicate that a step sets, in the names used on the wire. -/
def Step.localFilter? (aliases : Aliases) : Step → Option Predicate
  | .filterLocal p => some (p.rename aliases)
  | _ => none

/-- A query after a step: what the step sets, and what it keeps. -/
structure Sets (q : Query) (s : Step) (q' : Query) : Prop where
  aliases : q'.aliases = q.aliases
  style : q'.style = s.style?.getD q.style
  localFilter : q'.localFilter = (s.localFilter? q.aliases).or q.localFilter

theorem sets_applyOrKeep (q : Query) (s : Step) : q.Sets s (q.applyOrKeep s) := by
  cases s with
  | filter p =>
    simp only [applyOrKeep, apply]
    cases hf : q.filter p with
    | error e => exact ⟨rfl, rfl, rfl⟩
    | ok q' =>
      obtain ⟨-, rfl⟩ := filter_eq_ok_iff.mp hf
      exact ⟨rfl, rfl, rfl⟩
  | select fields =>
    change q.Sets _ (q.select fields)
    unfold Query.select
    split <;> exact ⟨rfl, rfl, rfl⟩
  | key name value =>
    change q.Sets _ (q.key name value)
    unfold Query.key
    dsimp only
    split <;> exact ⟨rfl, rfl, rfl⟩
  | filterLocal | expand | orderBy | skip | top | count | option | limit | pageSize | crossCompany
  | style => exact ⟨rfl, rfl, rfl⟩

theorem aliases_applyAll (q : Query) (steps : List Step) :
    (q.applyAll steps).aliases = q.aliases := by
  induction steps generalizing q with
  | nil => rfl
  | cons s steps ih => exact (ih (q.applyOrKeep s)).trans (q.sets_applyOrKeep s).aliases

theorem applyAll_cons (q : Query) (s : Step) (steps : List Step) :
    q.applyAll (s :: steps) = (q.applyOrKeep s).applyAll steps := rfl

theorem applyAll_snoc (q : Query) (steps : List Step) (s : Step) :
    q.applyAll (steps ++ [s]) = (q.applyAll steps).applyOrKeep s := by
  simp [applyAll]

/-- What a step either sets or keeps is as the last step leaves it that sets it. -/
theorem applyAll_last {α : Type} (view : Query → Option α) (given : Step → Option α) {q : Query}
    (h : ∀ q' s, q'.aliases = q.aliases → view (q'.applyOrKeep s) = (given s).or (view q'))
    (steps : List Step) :
    view (q.applyAll steps) = (steps.filterMap given).getLast?.or (view q) := by
  induction steps using List.reverseRecOn with
  | nil => rfl
  | append_singleton steps s ih =>
    rw [applyAll_snoc, h _ _ (aliases_applyAll q steps), ih]
    cases hs : given s <;> simp [hs]

theorem style_applyAll (q : Query) (steps : List Step) :
    (q.applyAll steps).style = (steps.filterMap Step.style?).getLast?.getD q.style := by
  have hstep (q' : Query) (s : Step) :
      some (q'.applyOrKeep s).style = s.style?.or (some q'.style) := by
    rw [(q'.sets_applyOrKeep s).style]
    simp
  have hlast : some (q.applyAll steps).style = _ :=
    applyAll_last (some ·.style) Step.style? (fun q' s _ => hstep q' s) steps
  simpa using hlast

/-- What steps add to is as all of them leave it that add something, one after the other. -/
theorem applyAll_collects {α β : Type} (view : Query → β) (given : Aliases → Step → Option α)
    (add : β → α → β) (h : ∀ q s, view (q.applyOrKeep s) =
      (given q.aliases s).elim (view q) (add (view q))) (q : Query) (steps : List Step) :
    view (q.applyAll steps) = (steps.filterMap (given q.aliases)).foldl add (view q) := by
  induction steps generalizing q with
  | nil => rfl
  | cons s steps ih =>
    rw [applyAll_cons, ih, h, (q.sets_applyOrKeep s).aliases, List.filterMap_cons]
    cases given q.aliases s <;> rfl

theorem localFilter_applyAll (q : Query) (steps : List Step) :
    (q.applyAll steps).localFilter =
      (steps.filterMap (Step.localFilter? q.aliases)).getLast?.or q.localFilter :=
  applyAll_last localFilter (Step.localFilter? q.aliases)
    (fun q' s ha => ha ▸ (q'.sets_applyOrKeep s).localFilter) steps

end RecordQuery.Query
