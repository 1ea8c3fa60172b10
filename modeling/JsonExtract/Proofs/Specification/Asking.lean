import Mathlib.Data.List.Basic
import JsonExtract.Proofs.Specification.Substitution

/-!
# Names that are looked up

Replacing the references in a text is followed here look-up by look-up: the names of the variables
are written down as they are asked for.  Work of this kind asks for names in a row, up to the first
that is not set, which is then its problem.
-/

namespace JsonExtract

namespace Variables

/-! ## Work that looks variables up -/

/-- Work that may look up variables, with the names that have been looked up so far. -/
abbrev Asking := ExceptT Problem (StateM (List String))

/-- What work comes to, and the names that have been looked up after it. -/
def Asking.outcome {α : Type} (work : Asking α) (asked : List String) :
    Except Problem α × List String :=
  work.run.run asked

def ask (lookup : Lookup) (name : String) : Asking String := do
  modify (· ++ [name])
  match lookup name with
  | some value => return value
  | none => throw (.missingVariable name)

def askChars (lookup : Lookup) (text : List Char) : Asking (List Char) :=
  match text with
  | [] => return []
  | c :: rest =>
    match _h : reference? (c :: rest) with
    | some (name, tail) => do
      let value ← ask lookup name
      (value.toList ++ ·) <$> askChars lookup tail
    | none => (c :: ·) <$> askChars lookup rest
termination_by text.length
decreasing_by
  · exact length_of_reference? _h
  · simp

def askText (lookup : Lookup) (text : String) : Asking String :=
  String.ofList <$> askChars lookup text.toList

/-- The names that are looked up when they come in a row: all up to the first that is not set. -/
def lookedUp (lookup : Lookup) : List String → List String
  | [] => []
  | name :: rest => if (lookup name).isSome then name :: lookedUp lookup rest else [name]

theorem lookedUp_append (lookup : Lookup) (first second : List String) :
    lookedUp lookup (first ++ second) =
      lookedUp lookup first ++
        if unset? lookup first = none then lookedUp lookup second else [] := by
  induction first with
  | nil => simp [lookedUp, unset?]
  | cons name rest ih =>
      cases hvalue : lookup name with
      | none => simp [lookedUp, unset?, hvalue]
      | some value =>
          have hrest : unset? lookup (name :: rest) = unset? lookup rest := by
            simp [unset?, hvalue]
          simp [lookedUp, hvalue, ih, hrest]

/-- Whether work comes to a result by looking up names in a row, the problem being the first that
is not set. -/
structure Asks {α : Type} (lookup : Lookup) (work : Asking α) (result : Except Problem α)
    (names : List String) : Prop where
  outcome_eq (asked : List String) : work.outcome asked = (result, asked ++ lookedUp lookup names)
  problem : Problem.ofResult? result = unset? lookup names

section

variable {α β : Type} {lookup : Lookup}

theorem Asking.outcome_bind (work : Asking α) (next : α → Asking β) (asked : List String) :
    Asking.outcome (work >>= next) asked =
      match work.outcome asked with
      | (.ok value, asked) => (next value).outcome asked
      | (.error problem, asked) => (.error problem, asked) := by
  unfold Asking.outcome
  rw [ExceptT.run_bind, StateT.run_bind]
  rcases work.run.run asked with ⟨result, later⟩
  cases result <;> rfl

theorem Asks.pure (value : α) : Asks lookup (Pure.pure value) (.ok value) [] where
  outcome_eq asked := by
    rw [lookedUp, List.append_nil]
    rfl
  problem := rfl

theorem Asks.fails {work : Asking α} {problem : Problem} {names : List String}
    (hwork : Asks lookup work (.error problem) names) (next : α → Asking β) (more : List String) :
    Asks lookup (work >>= next) (.error problem) (names ++ more) where
  outcome_eq asked := by
    rw [Asking.outcome_bind, hwork.outcome_eq, lookedUp_append, ← hwork.problem]
    simp [Problem.ofResult?]
  problem := by
    rw [unset?_append, ← hwork.problem]
    rfl

theorem Asks.andThen {work : Asking α} {value : α} {names more : List String}
    (hwork : Asks lookup work (.ok value) names) {next : α → Asking β} {result : Except Problem β}
    (hnext : Asks lookup (next value) result more) :
    Asks lookup (work >>= next) result (names ++ more) where
  outcome_eq asked := by
    rw [Asking.outcome_bind, hwork.outcome_eq, lookedUp_append, ← hwork.problem]
    simp [Problem.ofResult?, hnext.outcome_eq]
  problem := by
    rw [unset?_append, ← hwork.problem]
    exact hnext.problem

theorem Asks.map {work : Asking α} {result : Except Problem α} {names : List String}
    (hwork : Asks lookup work result names) (f : α → β) :
    Asks lookup (f <$> work) (result.map f) names := by
  rw [map_eq_pure_bind, ← List.append_nil names]
  cases result with
  | error problem => exact hwork.fails _ []
  | ok value => exact hwork.andThen (.pure (f value))

theorem asks_ask (lookup : Lookup) (name : String) :
    Asks lookup (ask lookup name)
      (match lookup name with
      | some value => .ok value
      | none => .error (.missingVariable name)) [name] where
  outcome_eq asked := by
    rw [ask]
    cases hvalue : lookup name with
    | none => simp [lookedUp, hvalue]; rfl
    | some value => simp [lookedUp, hvalue]; rfl
  problem := by
    cases hvalue : lookup name <;> simp [Problem.ofResult?, unset?, hvalue]

end

/-! ## Texts -/

theorem askChars_reference {c : Char} {rest tail : List Char} {name : String}
    (href : reference? (c :: rest) = some (name, tail)) (lookup : Lookup) :
    askChars lookup (c :: rest) =
      ask lookup name >>= fun value => (value.toList ++ ·) <$> askChars lookup tail := by
  rw [askChars]
  split
  · rename_i hread
    rw [href] at hread
    cases hread
    rfl
  · rename_i hread
    rw [href] at hread
    contradiction

theorem askChars_plain {c : Char} {rest : List Char} (hplain : reference? (c :: rest) = none)
    (lookup : Lookup) : askChars lookup (c :: rest) = (c :: ·) <$> askChars lookup rest := by
  rw [askChars]
  split
  · rename_i hread
    rw [hplain] at hread
    contradiction
  · rfl

theorem asks_askChars (lookup : Lookup) (text : List Char) :
    Asks lookup (askChars lookup text) (expandChars lookup text) (references text) := by
  induction text using references.induct with
  | case1 =>
      rw [askChars, expandChars_nil, references]
      exact .pure []
  | case2 c rest name tail href ih =>
      rw [askChars_reference href, expandChars_reference href, references_reference href]
      have hask := asks_ask lookup name
      cases hvalue : lookup name with
      | none =>
          rw [hvalue] at hask
          exact hask.fails _ (references tail)
      | some value =>
          rw [hvalue] at hask
          exact hask.andThen (ih.map (value.toList ++ ·))
  | case3 c rest hplain ih =>
      rw [askChars_plain hplain, expandChars_plain hplain, references_plain hplain]
      exact ih.map (c :: ·)

theorem asks_askText (lookup : Lookup) (text : String) :
    Asks lookup (askText lookup text) (expand lookup text) (references text.toList) :=
  (asks_askChars lookup text.toList).map String.ofList

/-- Whether a text refers to a variable that is not set, and to none such further left. -/
def FirstUnset (lookup : Lookup) (text name : String) : Prop :=
  ∃ before after, text = before ++ reference name ++ after ∧ IsName name ∧ lookup name = none ∧
    ∀ other, RefersTo before other → lookup other ≠ none

theorem unset?_references_eq_some_iff {lookup : Lookup} {text name : String} :
    unset? lookup (references text.toList) = some (.missingVariable name) ↔
      FirstUnset lookup text name := by
  rw [← ofResult?_expand, Problem.ofResult?_eq_some_iff, expand_eq_error_iff]
  constructor
  · rintro ⟨before, other, after, htext, hname, hunset, hproblem, hbefore⟩
    obtain rfl := Problem.missingVariable.inj hproblem
    exact ⟨before, after, htext, hname, hunset, hbefore⟩
  · rintro ⟨before, after, htext, hname, hunset, hbefore⟩
    exact ⟨before, name, after, htext, hname, hunset, rfl, hbefore⟩

end Variables

end JsonExtract
