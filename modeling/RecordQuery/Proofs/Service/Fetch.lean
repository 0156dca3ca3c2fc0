import RecordQuery.Proofs.Query.Steps
import RecordQuery.Service.Session

/-!
# Fetches

However a query of a session is put together, fetching it writes the filter clause and reads the
records in one and the same style of booleans, the last one that was set.
-/
namespace RecordQuery

/-- The first request of a run is that of its query. -/
theorem Paging.collectionRequest_of_head? {σ : Type} {channel : Channel σ} {plan : Plan}
    {cancelled : Bool} {s : σ} {r : Request}
    (h : (run channel plan cancelled s).requests.head? = some r) :
    plan.query.collectionRequest = .ok r := by
  unfold run start at h
  cases hr : plan.query.collectionRequest with
  | error e => simp [hr, advance] at h
  | ok first =>
    simp only [hr, ask] at h
    split at h
    · simp [advance] at h
    · split at h
      · simp [advance] at h
      · simpa [advance] using h

namespace Service

/-- A fetch is the run of its query in the style that was set last, or else in the style of the
session, and the filter clause it sends, if it sends anything, is written in the same style. -/
theorem fetch_style {σ : Type} (channel : Channel σ) (settings : Settings) (entity : String)
    (aliases : Aliases) (steps : List Query.Step) (cancelled : Bool) (s : σ) :
    let start := (Session.ofSettings settings).query entity aliases
    let q := start.applyAll steps
    let style := (steps.filterMap Query.Step.style?).getLast?.getD settings.style
    let t := Session.fetch channel q cancelled s
    let driven := Paging.run channel ⟨q, style⟩ cancelled s
    (∀ r, t.requests.head? = some r →
        Query.FiltersBy style r.query (start.lastGiven? steps)) ∧
      q.localFilter = (steps.filterMap (Query.Step.localFilter? aliases)).getLast? ∧
      t.result = driven.result.result.mapError (⟨some (Session.fetchContext q), ·⟩) ∧
      t.requests = driven.requests ∧ t.state = driven.state := by
  intro start q style t driven
  have hstyle : q.style = style := start.style_applyAll steps
  have hnew : start.Holds none := .unfiltered rfl rfl
  have hheld : q.Holds (start.lastGiven? steps) := by simpa using hnew.applyAll steps
  have hrun : t = driven.map fun outcome =>
      outcome.result.mapError (⟨some (Session.fetchContext q), ·⟩) := by
    simp only [t, driven, Session.fetch, Session.plan, hstyle]
  refine ⟨fun r hr => ?_, ?_, by rw [hrun]; rfl, by rw [hrun]; rfl, by rw [hrun]; rfl⟩
  · obtain ⟨r', hr', hfilters⟩ := hheld.exists_request
    rw [hrun] at hr
    have hfirst : q.collectionRequest = .ok r := Paging.collectionRequest_of_head? hr
    rw [hr'] at hfirst
    rw [← hstyle, ← Except.ok.inj hfirst]
    exact hfilters
  · exact (start.localFilter_applyAll steps).trans (Option.or_none ..)

end Service

end RecordQuery
