import Mathlib.Data.List.Forall2
import JsonExtract.Keyed
import JsonExtract.Problem

/-!
# The first problem

Work on a list goes from left to right and ends with the first problem, so that the problem of
the whole is that of the leftmost bad element, if there is one.
-/

namespace JsonExtract.Problem

variable {α β : Type}

/-- The problem in the place of a result. -/
def ofResult? : Except Problem α → Option Problem
  | .ok _ => none
  | .error problem => some problem

theorem ofResult?_eq_some_iff {result : Except Problem α} {problem : Problem} :
    ofResult? result = some problem ↔ result = .error problem := by
  cases result <;> simp [ofResult?]

theorem ofResult?_eq_none_iff {result : Except Problem α} :
    ofResult? result = none ↔ ∃ value, result = .ok value := by
  cases result <;> simp [ofResult?]

@[simp] theorem ofResult?_map (f : α → β) (result : Except Problem α) :
    ofResult? (result.map f) = ofResult? result := by
  cases result <;> rfl

theorem bind_eq_ok_iff {ε : Type} {result : Except ε α} {next : α → Except ε β} {value : β} :
    result.bind next = .ok value ↔ ∃ first, result = .ok first ∧ next first = .ok value := by
  cases result <;> simp [Except.bind]

theorem map_eq_ok_iff {ε : Type} {f : α → β} {result : Except ε α} {value : β} :
    result.map f = .ok value ↔ ∃ first, result = .ok first ∧ f first = value := by
  cases result <;> simp [Except.map]

theorem fmap_eq_ok_iff {ε : Type} {f : α → β} {result : Except ε α} {value : β} :
    f <$> result = .ok value ↔ ∃ first, result = .ok first ∧ f first = value :=
  map_eq_ok_iff

theorem mapError_eq_ok_iff {ε ζ : Type} {wrap : ε → ζ} {result : Except ε α} {value : α} :
    result.mapError wrap = .ok value ↔ result = .ok value := by
  cases result with
  | error fault => exact ⟨nofun, nofun⟩
  | ok other =>
      have hvalue {η : Type} : (.ok other : Except η α) = .ok value ↔ other = value :=
        ⟨Except.ok.inj, congrArg Except.ok⟩
      exact hvalue.trans hvalue.symm

theorem mapError_eq_error_iff {ε : Type} {wrap : ε → Problem} {result : Except ε α}
    {problem : Problem} :
    result.mapError wrap = .error problem ↔
      ∃ fault, result = .error fault ∧ wrap fault = problem := by
  cases result with
  | error fault =>
      constructor
      · intro h
        exact ⟨fault, rfl, Except.error.inj h⟩
      · rintro ⟨_, hfault, rfl⟩
        cases hfault
        rfl
  | ok other => exact ⟨nofun, nofun⟩

theorem ofResult?_bind (result : Except Problem α) (next : α → Except Problem β)
    {rest : Option Problem} (hnext : ∀ value, result = .ok value → ofResult? (next value) = rest) :
    ofResult? (result.bind next) = (ofResult? result).or rest := by
  cases result with
  | error problem => rfl
  | ok value => exact hnext value rfl

theorem ofResult?_mapM (f : α → Except Problem β) (list : List α) :
    ofResult? (list.mapM f) = list.findSome? fun element => ofResult? (f element) := by
  induction list with
  | nil => rfl
  | cons element rest ih =>
      rw [List.mapM_cons, List.findSome?_cons]
      cases f element with
      | error problem => rfl
      | ok value =>
          have hrest : ofResult? ((rest.mapM f).map (value :: ·)) = ofResult? (rest.mapM f) :=
            ofResult?_map _ _
          exact hrest.trans ih

theorem mapM_eq_ok_iff {ε : Type} {f : α → Except ε β} {list : List α} {images : List β} :
    list.mapM f = .ok images ↔
      List.Forall₂ (fun element image => f element = .ok image) list images := by
  induction list generalizing images with
  | nil =>
      rw [List.mapM_nil, List.forall₂_nil_left_iff]
      exact ⟨fun h => (Except.ok.inj h).symm, fun h => congrArg Except.ok h.symm⟩
  | cons element rest ih =>
      rw [List.mapM_cons, List.forall₂_cons_left_iff]
      constructor
      · intro hok
        obtain ⟨image, himage, hrest⟩ := bind_eq_ok_iff.mp hok
        obtain ⟨others, hothers, hlist⟩ := bind_eq_ok_iff.mp hrest
        exact ⟨image, others, himage, ih.mp hothers, (Except.ok.inj hlist).symm⟩
      · rintro ⟨image, others, himage, hothers, rfl⟩
        rw [himage, ih.mpr hothers]
        rfl

theorem ofResult?_traverse (f : α → Except Problem β) (entries : List (String × α)) :
    ofResult? (Keyed.traverse f entries) =
      entries.findSome? fun entry => ofResult? (f entry.2) := by
  induction entries with
  | nil => rfl
  | cons entry rest ih =>
      rw [Keyed.traverse, List.findSome?_cons]
      cases f entry.2 with
      | error problem => rfl
      | ok value =>
          have hrest : ofResult? ((Keyed.traverse f rest).map ((entry.1, value) :: ·)) =
              ofResult? (Keyed.traverse f rest) :=
            ofResult?_map _ _
          exact hrest.trans ih

end JsonExtract.Problem
