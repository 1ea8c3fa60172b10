import JsonExtract.Path.Resolve

/-!
# Fan-out of wildcards

Steps with `k` wildcards lead to arrays inside each other, `k` levels deep, with null wherever
a level or an element is missing.  Two readings of such a result are proved.  Resolving two
lists of steps one after the other resolves the second at every element found at depth `k`.
And each element is what the same steps lead to with the wildcards replaced by its positions,
so that no element is lost, duplicated or moved at any level.
-/

namespace JsonExtract

namespace Json

def at? : List Nat → Json → Option Json
  | [], value => some value
  | position :: rest, .array items => items[position]?.bind (at? rest)
  | _ :: _, _ => none

/-- The document with every element at this depth of nested arrays replaced. -/
def mapDepth (f : Json → Json) : Nat → Json → Json
  | 0, value => f value
  | depth + 1, .array items => .array (items.map (mapDepth f depth))
  | _ + 1, value => value

/-- Arrays inside each other down to this depth, with null in the place of a missing one. -/
def ArraysTo : Nat → Json → Prop
  | 0, _ => True
  | depth + 1, .array items => ∀ item ∈ items, item.ArraysTo depth
  | _ + 1, value => value = .null

/-- An array as long as the one found, or null when what was found is not an array. -/
def Spans (value : Json) : Option Json → Prop
  | some (.array items) => ∃ images, value = .array images ∧ images.length = items.length
  | _ => value = .null

@[simp] theorem at?_nil (value : Json) : value.at? [] = some value := by
  simp [at?]

@[simp] theorem at?_cons_array (position : Nat) (rest : List Nat) (items : List Json) :
    (Json.array items).at? (position :: rest) = items[position]?.bind (at? rest) := by
  simp [at?]

@[simp] theorem at?_cons_null (position : Nat) (rest : List Nat) :
    Json.null.at? (position :: rest) = none := rfl

theorem eq_nil_of_isSome_at?_null {positions : List Nat}
    (hin : (Json.null.at? positions).isSome) : positions = [] := by
  cases positions with
  | nil => rfl
  | cons position rest => simp at hin

theorem mapDepth_null {f : Json → Json} (hnull : f .null = .null) (depth : Nat) :
    mapDepth f depth .null = .null := by
  cases depth with
  | zero => exact hnull
  | succ depth => rfl

theorem arraysTo_null (depth : Nat) : Json.null.ArraysTo depth := by
  cases depth with
  | zero => trivial
  | succ depth => rfl

theorem items?_eq_some_iff {value : Json} {items : List Json} :
    value.items? = some items ↔ value = .array items := by
  cases value <;> simp [items?]

end Json

namespace Path

def wildcards (steps : List Step) : Nat :=
  steps.count .wildcard

/-- The steps before the wildcard that so many others precede. -/
def leadIn : Nat → List Step → List Step
  | _, [] => []
  | 0, .wildcard :: _ => []
  | earlier + 1, .wildcard :: rest => .wildcard :: leadIn earlier rest
  | earlier, step :: rest => step :: leadIn earlier rest

/-- The steps with their wildcards replaced by positions, from the first one on. -/
def pin : List Nat → List Step → List Step
  | _, [] => []
  | position :: positions, .wildcard :: rest => .index position :: pin positions rest
  | positions, step :: rest => step :: pin positions rest

/-- The value that the steps lead to, and null where they lead to nothing. -/
def resolveOrNull (steps : List Step) (value : Json) : Json :=
  (resolve steps value).getD .null

/-! ## One step -/

section Cons

variable {step : Step} (hstep : step ≠ .wildcard) (rest : List Step)
include hstep

theorem wildcards_cons_of_ne : wildcards (step :: rest) = wildcards rest :=
  List.count_cons_of_ne hstep

theorem leadIn_cons_of_ne (earlier : Nat) :
    leadIn earlier (step :: rest) = step :: leadIn earlier rest := by
  cases step with
  | key name => cases earlier <;> rfl
  | index position => cases earlier <;> rfl
  | wildcard => contradiction

theorem pin_cons_of_ne (positions : List Nat) :
    pin positions (step :: rest) = step :: pin positions rest := by
  cases step with
  | key name => cases positions <;> rfl
  | index position => cases positions <;> rfl
  | wildcard => contradiction

end Cons

@[simp] theorem wildcards_nil : wildcards [] = 0 := rfl

@[simp] theorem wildcards_cons_wildcard (rest : List Step) :
    wildcards (.wildcard :: rest) = wildcards rest + 1 :=
  List.count_cons_self

@[simp] theorem resolve_cons_wildcard_array (rest : List Step) (items : List Json) :
    resolve (.wildcard :: rest) (.array items) =
      some (.array (items.map (resolveOrNull rest))) := rfl

/-- All that a step can do at a value: fan out over an array, go on from one value, or lead to
nothing whatever follows. -/
theorem resolve_cons_cases (step : Step) (value : Json) :
    (∃ items, step = .wildcard ∧ value = .array items) ∨
      (∃ next, step ≠ .wildcard ∧
        ∀ rest, resolve (step :: rest) value = resolve rest next) ∨
      ∀ rest, resolve (step :: rest) value = none := by
  cases step with
  | key name =>
      cases hchild : value.child? name with
      | none => exact .inr (.inr fun rest => by simp [resolve, hchild])
      | some next => exact .inr (.inl ⟨next, by simp, fun rest => by simp [resolve, hchild]⟩)
  | index position =>
      cases helement : value.element? position with
      | none => exact .inr (.inr fun rest => by simp [resolve, helement])
      | some next =>
          exact .inr (.inl ⟨next, by simp, fun rest => by simp [resolve, helement]⟩)
  | wildcard =>
      cases hitems : value.items? with
      | none => exact .inr (.inr fun rest => by simp [resolve, hitems])
      | some items => exact .inl ⟨items, rfl, Json.items?_eq_some_iff.mp hitems⟩

theorem resolveOrNull_of_resolve {steps : List Step} {value result : Json}
    (hresult : resolve steps value = some result) : resolveOrNull steps value = result := by
  simp [resolveOrNull, hresult]

theorem resolveOrNull_of_resolve_eq_none {steps : List Step} {value : Json}
    (hnone : resolve steps value = none) : resolveOrNull steps value = .null := by
  simp [resolveOrNull, hnone]

@[simp] theorem resolveOrNull_cons_wildcard_array (rest : List Step) (items : List Json) :
    resolveOrNull (.wildcard :: rest) (.array items) =
      .array (items.map (resolveOrNull rest)) := rfl

theorem resolveOrNull_congr {steps others : List Step} {value other : Json}
    (hsame : resolve steps value = resolve others other) :
    resolveOrNull steps value = resolveOrNull others other := by
  simp [resolveOrNull, hsame]

@[simp] theorem resolveOrNull_null (steps : List Step) : resolveOrNull steps .null = .null := by
  cases steps with
  | nil => rfl
  | cons step rest => cases step <;> rfl

def raggedRows : Json :=
  .object [("rows", .array
    [.array [.string "a", .string "b"], .array [.string "c"], .string "x"])]

/-! ## One path after another -/

theorem resolve_append_of_wildcards_eq_zero {first : List Step}
    (hfirst : wildcards first = 0) (second : List Step) (value : Json) :
    resolve (first ++ second) value = (resolve first value).bind (resolve second) := by
  induction first generalizing value with
  | nil => rfl
  | cons step rest ih =>
      rw [List.cons_append]
      rcases resolve_cons_cases step value with ⟨items, rfl, rfl⟩ | ⟨next, hstep, hnext⟩ | hnone
      · simp at hfirst
      · rw [wildcards_cons_of_ne hstep] at hfirst
        rw [hnext, hnext, ih hfirst]
      · rw [hnone, hnone, Option.bind_none]

theorem resolveOrNull_append (first second : List Step) (value : Json) :
    resolveOrNull (first ++ second) value =
      (resolveOrNull first value).mapDepth (resolveOrNull second) (wildcards first) := by
  induction first generalizing value with
  | nil => rfl
  | cons step rest ih =>
      rw [List.cons_append]
      rcases resolve_cons_cases step value with ⟨items, rfl, rfl⟩ | ⟨next, hstep, hnext⟩ | hnone
      · simp [Json.mapDepth, ih]
      · rw [wildcards_cons_of_ne hstep, resolveOrNull_congr (hnext _),
          resolveOrNull_congr (hnext _), ih]
      · rw [resolveOrNull_of_resolve_eq_none (hnone _),
          resolveOrNull_of_resolve_eq_none (hnone _),
          Json.mapDepth_null (resolveOrNull_null second)]

theorem resolve_append_eq_none_iff {first : List Step} (hfirst : 1 ≤ wildcards first)
    (second : List Step) (value : Json) :
    resolve (first ++ second) value = none ↔ resolve first value = none := by
  induction first generalizing value with
  | nil => simp at hfirst
  | cons step rest ih =>
      rw [List.cons_append]
      rcases resolve_cons_cases step value with ⟨items, rfl, rfl⟩ | ⟨next, hstep, hnext⟩ | hnone
      · simp
      · rw [wildcards_cons_of_ne hstep] at hfirst
        rw [hnext, hnext]
        exact ih hfirst next
      · rw [hnone, hnone]

theorem arraysTo_resolveOrNull (steps : List Step) (value : Json) :
    (resolveOrNull steps value).ArraysTo (wildcards steps) := by
  induction steps generalizing value with
  | nil => trivial
  | cons step rest ih =>
      rcases resolve_cons_cases step value with ⟨items, rfl, rfl⟩ | ⟨next, hstep, hnext⟩ | hnone
      · rw [wildcards_cons_wildcard, resolveOrNull_cons_wildcard_array]
        intro item hitem
        obtain ⟨source, _, rfl⟩ := List.mem_map.mp hitem
        exact ih source
      · rw [wildcards_cons_of_ne hstep, resolveOrNull_congr (hnext _)]
        exact ih next
      · rw [resolveOrNull_of_resolve_eq_none (hnone _)]
        exact Json.arraysTo_null _

/-- Resolving one list of steps after another.  Without a wildcard among the first, the second
starts from what the first lead to.  With `k` of them it starts from every element at depth
`k`, null stands for what it does not find there, and what is missing above stays null. -/
theorem resolve_append (first second : List Step) (value : Json) :
    (wildcards first = 0 →
      resolve (first ++ second) value = (resolve first value).bind (resolve second)) ∧
    (1 ≤ wildcards first →
      (resolve (first ++ second) value = none ↔ resolve first value = none) ∧
      ∀ result, resolve first value = some result →
        result.ArraysTo (wildcards first) ∧
        resolve (first ++ second) value =
          some (result.mapDepth (fun found => (resolve second found).getD .null)
            (wildcards first))) := by
  refine ⟨fun hfirst => resolve_append_of_wildcards_eq_zero hfirst second value, ?_⟩
  intro hfirst
  refine ⟨resolve_append_eq_none_iff hfirst second value, ?_⟩
  intro result hresult
  have hfound : resolveOrNull first value = result := resolveOrNull_of_resolve hresult
  constructor
  · rw [← hfound]
    exact arraysTo_resolveOrNull first value
  · have happend := resolveOrNull_append first second value
    cases hboth : resolve (first ++ second) value with
    | none =>
        rw [(resolve_append_eq_none_iff hfirst second value).mp hboth] at hresult
        contradiction
    | some both =>
        rw [resolveOrNull_of_resolve hboth, hfound] at happend
        exact congrArg some happend

theorem resolve_append_raggedRows :
    (wildcards [.key "rows"] = 0 ∧
      resolve ([.key "rows"] ++ [.wildcard, .index 1]) raggedRows =
        some (.array [.string "b", .null, .null])) ∧
    (1 ≤ wildcards [.key "rows", .wildcard] ∧
      resolve ([.key "rows", .wildcard] ++ [.index 1]) raggedRows =
        some (.array [.string "b", .null, .null])) := by
  constructor
  · have hfirst : wildcards [.key "rows"] = 0 := by decide
    exact ⟨hfirst, (resolve_append _ _ _).1 hfirst⟩
  · have hfirst : 1 ≤ wildcards [.key "rows", .wildcard] := by decide
    have hrows := (resolve_append [.key "rows", .wildcard] [.index 1] raggedRows).2 hfirst
    exact ⟨hfirst, (hrows.2 _ rfl).2⟩

/-! ## Position by position -/

theorem resolve_isSome_iff_leadIn {steps : List Step} (hsteps : 1 ≤ wildcards steps)
    (value : Json) :
    (resolve steps value).isSome ↔
      ∃ items, resolve (leadIn 0 steps) value = some (.array items) := by
  induction steps generalizing value with
  | nil => simp at hsteps
  | cons step rest ih =>
      by_cases hstep : step = .wildcard
      · subst step
        cases value <;> simp [resolve, leadIn, Json.items?]
      · rw [wildcards_cons_of_ne hstep] at hsteps
        rw [leadIn_cons_of_ne hstep]
        rcases resolve_cons_cases step value with ⟨items, rfl, rfl⟩ | ⟨next, _, hnext⟩ | hnone
        · contradiction
        · rw [hnext, hnext]
          exact ih hsteps next
        · simp [hnone]

theorem at?_resolveOrNull_cons_wildcard (rest : List Step) (items : List Json)
    (position : Nat) (positions : List Nat) :
    (resolveOrNull (.wildcard :: rest) (.array items)).at? (position :: positions) =
      items[position]?.bind fun item => (resolveOrNull rest item).at? positions := by
  rw [resolveOrNull_cons_wildcard_array, Json.at?_cons_array, List.getElem?_map,
    Option.bind_map]
  rfl

theorem pin_nil_cons (step : Step) (rest : List Step) :
    pin [] (step :: rest) = step :: pin [] rest := by
  cases step <;> rfl

theorem spans_null_of_resolve_eq_none {step : Step} {value : Json}
    (hnone : ∀ rest, resolve (step :: rest) value = none) (rest : List Step) :
    Json.null.Spans (resolve (pin [] (leadIn 0 (step :: rest))) value) := by
  by_cases hstep : step = .wildcard
  · subst step
    cases value with
    | array items => simp at hnone
    | _ => rfl
  · rw [leadIn_cons_of_ne hstep, pin_nil_cons, hnone]
    rfl

/-- What stands at positions in a result.  As long as wildcards are left, it is an array as long
as the one that the next wildcard finds there, and once there are none, it is what the steps
lead to with the positions in place of the wildcards. -/
theorem at?_resolveOrNull {steps : List Step} {positions : List Nat} {value reached : Json}
    (hreached : (resolveOrNull steps value).at? positions = some reached) :
    (positions.length < wildcards steps →
      reached.Spans (resolve (pin positions (leadIn positions.length steps)) value)) ∧
    (positions.length = wildcards steps →
      reached = resolveOrNull (pin positions steps) value) := by
  induction steps generalizing value positions with
  | nil =>
      refine ⟨by simp, ?_⟩
      intro hlength
      rw [wildcards_nil, List.length_eq_zero_iff] at hlength
      subst positions
      exact (Option.some.inj hreached).symm
  | cons step rest ih =>
      rcases resolve_cons_cases step value with ⟨items, rfl, rfl⟩ | ⟨next, hstep, hnext⟩ | hnone
      · cases positions with
        | nil =>
            rw [resolveOrNull_cons_wildcard_array, Json.at?_nil, Option.some.injEq] at hreached
            subst reached
            exact ⟨fun _ => ⟨_, rfl, List.length_map _⟩, by simp⟩
        | cons position positions =>
            rw [at?_resolveOrNull_cons_wildcard, Option.bind_eq_some_iff] at hreached
            obtain ⟨item, hitem, hreached⟩ := hreached
            have hindex : ∀ others,
                resolve (.index position :: others) (.array items) = resolve others item := by
              intro others
              simp [resolve, Json.element?, hitem]
            obtain ⟨hspans, hvalue⟩ := ih hreached
            simp only [List.length_cons, wildcards_cons_wildcard, leadIn, pin, hindex,
              Nat.add_lt_add_iff_right, Nat.add_right_cancel_iff]
            refine ⟨hspans, ?_⟩
            intro hlength
            rw [hvalue hlength, resolveOrNull_congr (hindex _)]
      · rw [resolveOrNull_congr (hnext rest)] at hreached
        rw [wildcards_cons_of_ne hstep, leadIn_cons_of_ne hstep, pin_cons_of_ne hstep,
          pin_cons_of_ne hstep, hnext, resolveOrNull_congr (hnext _)]
        exact ih hreached
      · -- Null has no positions inside, so none can have been given.
        rw [resolveOrNull_of_resolve_eq_none (hnone rest)] at hreached
        have hpositions : positions = [] :=
          Json.eq_nil_of_isSome_at?_null (by simp [hreached])
        subst positions
        rw [Json.at?_nil, Option.some.injEq] at hreached
        subst reached
        constructor
        · intro _
          exact spans_null_of_resolve_eq_none hnone rest
        · intro _
          rw [pin_nil_cons, resolveOrNull_of_resolve_eq_none (hnone _)]

/-- Wildcards read point by point.  Steps with wildcards lead to something exactly when those
before the first wildcard lead to an array.  At positions that are there and do not use up the
wildcards, the result has an array as long as the one that the steps before the next wildcard
lead to with those positions, and null when that is no array.  At positions for all wildcards
it has what the steps lead to with those positions, and null when that is nothing. -/
theorem resolve_at_positions {steps : List Step} (hsteps : 1 ≤ wildcards steps)
    (value : Json) :
    ((resolve steps value).isSome ↔
      ∃ items, resolve (leadIn 0 steps) value = some (.array items)) ∧
    ∀ result, resolve steps value = some result →
      ∀ positions reached, result.at? positions = some reached →
        (positions.length < wildcards steps →
          reached.Spans (resolve (pin positions (leadIn positions.length steps)) value)) ∧
        (positions.length = wildcards steps →
          reached = (resolve (pin positions steps) value).getD .null) := by
  refine ⟨resolve_isSome_iff_leadIn hsteps value, ?_⟩
  intro result hresult positions reached hreached
  rw [← resolveOrNull_of_resolve hresult] at hreached
  exact at?_resolveOrNull hreached

theorem resolve_at_positions_raggedRows :
    1 ≤ wildcards [.key "rows", .wildcard, .wildcard] ∧
    ∃ result, resolve [.key "rows", .wildcard, .wildcard] raggedRows = some result ∧
      (∃ images, result = .array images ∧ images.length = 3) ∧
      result.at? [0, 1] = some (.string "b") ∧
      result.at? [2] = some .null := by
  have hsteps : 1 ≤ wildcards [.key "rows", .wildcard, .wildcard] := by decide
  have hread := (resolve_at_positions hsteps raggedRows).2 _ rfl
  have hrows := (hread [] _ rfl).1 (by decide)
  have hcell := (hread [0, 1] _ rfl).2 (by decide)
  have hmissing := (hread [2] _ rfl).1 (by decide)
  exact ⟨hsteps, _, rfl, hrows, congrArg some hcell, congrArg some hmissing⟩

end Path

end JsonExtract
