import Mathlib
import RecordQuery.Predicate.Basic

/-!
# What a predicate is made of

Conditions on the paths and the constants that occur in a predicate, those in the arguments of
calls included.
-/
namespace RecordQuery.Predicate

variable (P : Path → Prop) (L : Literal → Prop)

mutual

/-- Every path fulfils the first condition and every constant the second. -/
def Each : Predicate → Prop
  | .literal v => L v
  | .field p => P p
  | .compare _ a b => Each a ∧ Each b
  | .logical _ a b => Each a ∧ Each b
  | .not a => Each a
  | .call _ target arguments => Each target ∧ EachAll arguments

def EachAll : List Predicate → Prop
  | [] => True
  | p :: ps => Each p ∧ EachAll ps

end

variable {P L}

mutual

instance decidableEach [DecidablePred P] [DecidablePred L] : DecidablePred (Each P L)
  | .literal v => inferInstanceAs (Decidable (L v))
  | .field p => inferInstanceAs (Decidable (P p))
  | .compare _ a b | .logical _ a b =>
    have := decidableEach a
    have := decidableEach b
    inferInstanceAs (Decidable (Each P L a ∧ Each P L b))
  | .not a => decidableEach a
  | .call _ target arguments =>
    have := decidableEach target
    have := decidableEachAll arguments
    inferInstanceAs (Decidable (Each P L target ∧ EachAll P L arguments))

instance decidableEachAll [DecidablePred P] [DecidablePred L] : DecidablePred (EachAll P L)
  | [] => .isTrue trivial
  | p :: ps =>
    have := decidableEach p
    have := decidableEachAll ps
    inferInstanceAs (Decidable (Each P L p ∧ EachAll P L ps))

end

mutual

theorem Each.imp {P' : Path → Prop} {L' : Literal → Prop} (hp : ∀ p, P p → P' p)
    (hl : ∀ v, L v → L' v) : ∀ {e : Predicate}, Each P L e → Each P' L' e
  | .literal v, h => hl v h
  | .field p, h => hp p h
  | .compare .., h | .logical .., h => ⟨h.1.imp hp hl, h.2.imp hp hl⟩
  | .not a, h => Each.imp hp hl (e := a) h
  | .call .., h => ⟨h.1.imp hp hl, h.2.imp hp hl⟩

theorem EachAll.imp {P' : Path → Prop} {L' : Literal → Prop} (hp : ∀ p, P p → P' p)
    (hl : ∀ v, L v → L' v) : ∀ {ps : List Predicate}, EachAll P L ps → EachAll P' L' ps
  | [], _ => trivial
  | _ :: _, h => ⟨h.1.imp hp hl, h.2.imp hp hl⟩

end

theorem EachAll.literal {arguments : List Predicate} (h : EachAll P L arguments) {v : Literal}
    (hv : v ∈ arguments.filterMap literal?) : L v := by
  induction arguments with
  | nil => simp at hv
  | cons a arguments ih =>
    obtain ⟨ha, hrest⟩ := h
    obtain ⟨b, hb, hv⟩ := List.mem_filterMap.mp hv
    rcases List.mem_cons.mp hb with rfl | hb
    · cases b <;> simp_all [literal?, Each]
    · exact ih hrest (List.mem_filterMap.mpr ⟨b, hb, hv⟩)

theorem filterMap_literal (vs : List Literal) :
    (vs.map Predicate.literal).filterMap literal? = vs := by
  induction vs with
  | nil => rfl
  | cons v vs ih => simp [literal?, ih]

theorem Each.inList {target : Predicate} {vs : List Literal} (h : Each P L (.inList target vs)) :
    ∀ v ∈ vs, L v := fun v hv => h.2.literal (by rwa [filterMap_literal])

end RecordQuery.Predicate
