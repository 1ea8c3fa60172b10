import JsonExtract.Proofs.Path.Correspondence
import JsonExtract.Proofs.Picked
import JsonExtract.Proofs.Selector.Coercion

/-!
# The order of members

Documents keep the members of objects in the order in which they are written, but nothing that
picks looks at this order: members are found by their names and counted, and only elements of
arrays stand in places.  So documents that differ in the order of members alone, at any depth,
give the same picked values, up to the same difference.  The text of a value shows the order, and
the transform that gives it is left out.
-/

namespace JsonExtract

/-! ## Documents up to the order of members -/

section Options

variable {α β : Type} {R : α → α → Prop} {S : β → β → Prop}

theorem rel_bind {found others : Option α} (hfound : Option.Rel R found others)
    {next : α → Option β}
    (hnext : ∀ value other, R value other → Option.Rel S (next value) (next other)) :
    Option.Rel S (found.bind next) (others.bind next) := by
  cases hfound with
  | none => exact .none
  | some hsame => exact hnext _ _ hsame

theorem rel_map {found others : Option α} (hfound : Option.Rel R found others) {image : α → β}
    (himage : ∀ value other, R value other → S (image value) (image other)) :
    Option.Rel S (found.map image) (others.map image) := by
  cases hfound with
  | none => exact .none
  | some hsame => exact .some (himage _ _ hsame)

theorem rel_of_isSome_iff {found others : Option α} (hsome : found.isSome ↔ others.isSome)
    (hvalues : ∀ value other, found = some value → others = some other → R value other) :
    Option.Rel R found others := by
  cases found with
  | none =>
      cases others with
      | none => exact .none
      | some other => simp at hsome
  | some value =>
      cases others with
      | none => simp at hsome
      | some other => exact .some (hvalues value other rfl rfl)

theorem isSome_eq_of_rel {found others : Option α} (hfound : Option.Rel R found others) :
    found.isSome = others.isSome := by
  cases hfound <;> rfl

theorem rel_getElem? {items others : List α} (hitems : List.Forall₂ R items others) (n : Nat) :
    Option.Rel R items[n]? others[n]? := by
  induction hitems generalizing n with
  | nil => exact .none
  | cons hfirst _ ih =>
      cases n with
      | zero => exact .some hfirst
      | succ n => exact ih n

theorem Keyed.rel_get? {entries others : List (String × α)}
    (hsame : List.Forall₂ (fun entry other => entry.1 = other.1 ∧ R entry.2 other.2)
      entries others) (key : String) :
    Option.Rel R (Keyed.get? key entries) (Keyed.get? key others) := by
  induction hsame with
  | nil => exact .none
  | @cons entry other _ _ hfirst _ ih =>
      rw [Keyed.get?, Keyed.get?, hfirst.1]
      by_cases hkey : other.1 = key
      · rw [if_pos hkey, if_pos hkey]
        exact .some hfirst.2
      · rw [if_neg hkey, if_neg hkey]
        exact ih

end Options

namespace Json

/-- Whether two documents differ in nothing but the order in which objects have their members, at
any depth. -/
inductive Reordered : Json → Json → Prop where
  | null : Reordered .null .null
  | bool (value : Bool) : Reordered (.bool value) (.bool value)
  | number (n : Number) : Reordered (.number n) (.number n)
  | string (s : String) : Reordered (.string s) (.string s)
  | array {items others : List Json} (hlength : items.length = others.length)
      (hitems : ∀ n (h : n < items.length) (h' : n < others.length),
        Reordered items[n] others[n]) :
      Reordered (.array items) (.array others)
  | object {members others : List (String × Json)}
      (hnames : (Keyed.keys members).Perm (Keyed.keys others))
      (hvalues : ∀ name value other, Keyed.get? name members = some value →
        Keyed.get? name others = some other → Reordered value other) :
      Reordered (.object members) (.object others)

theorem Reordered.of_forall₂ {items others : List Json}
    (hitems : List.Forall₂ Reordered items others) :
    (Json.array items).Reordered (.array others) :=
  .array hitems.length_eq (List.forall₂_iff_get.mp hitems).2

mutual

theorem Reordered.refl : ∀ value : Json, value.Reordered value
  | .null => .null
  | .bool value => .bool value
  | .number n => .number n
  | .string s => .string s
  | .array items => .of_forall₂ (reordered_items items)
  | .object members => by
      refine .object (List.Perm.refl _) ?_
      intro name value other hvalue hother
      obtain rfl := Option.some.inj (hvalue.symm.trans hother)
      exact reordered_member members hvalue

theorem reordered_items : ∀ items : List Json, List.Forall₂ Reordered items items
  | [] => .nil
  | item :: rest => .cons (Reordered.refl item) (reordered_items rest)

theorem reordered_member : ∀ (members : List (String × Json)) {name : String} {value : Json},
    Keyed.get? name members = some value → value.Reordered value
  | (key, first) :: rest, name, value, hvalue => by
      rw [Keyed.get?] at hvalue
      split at hvalue
      · obtain rfl := Option.some.inj hvalue
        exact Reordered.refl first
      · exact reordered_member rest hvalue

end

/-- Members with distinct names may be put in any order, and their values be reordered in turn. -/
theorem Reordered.of_perm {members shuffled others : List (String × Json)}
    (hdistinct : (Keyed.keys members).Nodup) (hperm : members.Perm shuffled)
    (hvalues : List.Forall₂ (fun member other => member.1 = other.1 ∧ member.2.Reordered other.2)
      shuffled others) :
    (Json.object members).Reordered (.object others) := by
  have hnames : Keyed.keys shuffled = Keyed.keys others := by
    rw [← List.forall₂_eq_eq_eq, Keyed.keys, Keyed.keys, List.forall₂_map_left_iff,
      List.forall₂_map_right_iff]
    exact hvalues.imp fun _ _ hmember => hmember.1
  refine .object (hnames ▸ hperm.map Prod.fst) ?_
  intro name value other hvalue hother
  rw [← Keyed.get?_eq_of_perm hdistinct hperm] at hvalue
  have hrelated := Keyed.rel_get? hvalues name
  rw [hvalue, hother] at hrelated
  cases hrelated with
  | some hsame => exact hsame

/-! ## Looking into documents -/

theorem Reordered.isNull_eq {value other : Json} (hsame : value.Reordered other) :
    value.isNull = other.isNull := by
  cases hsame <;> rfl

theorem Reordered.items? {value other : Json} (hsame : value.Reordered other) :
    Option.Rel (List.Forall₂ Reordered) value.items? other.items? := by
  cases hsame with
  | array hlength hitems => exact .some (List.forall₂_iff_get.mpr ⟨hlength, hitems⟩)
  | _ => exact .none

theorem Reordered.child? {value other : Json} (hsame : value.Reordered other) (name : String) :
    Option.Rel Reordered (value.child? name) (other.child? name) := by
  cases hsame with
  | array hlength hitems =>
      rw [Json.child?, Json.child?]
      cases Path.position? name with
      | none => exact .none
      | some n => exact rel_getElem? (List.forall₂_iff_get.mpr ⟨hlength, hitems⟩) n
  | object hnames hvalues =>
      rw [Json.child?, Json.child?]
      have hsome := hnames.mem_iff (a := name)
      rw [← Keyed.get?_isSome_iff, ← Keyed.get?_isSome_iff] at hsome
      exact rel_of_isSome_iff hsome (hvalues name)
  | _ => exact .none

theorem reordered_correspondence : Correspondence Reordered (Option.Rel Reordered) where
  some hsame := .some hsame
  bind _ hfound hnext := rel_bind hfound hnext
  orNull hfound := by
    cases hfound with
    | none => exact .null
    | some hsame => exact hsame
  child? name hsame := hsame.child? name
  fanOut image hsame himage := by
    refine rel_map hsame.items? fun items others hitems => .of_forall₂ ?_
    exact List.rel_map (fun item other hitem => himage item other hitem) hitems

theorem Reordered.coerce {value other : Json} (hsame : value.Reordered other) :
    value.coerce.Reordered other.coerce := by
  induction hsame with
  | array hlength _ ih =>
      rw [coerce_array, coerce_array]
      refine .array (by simpa using hlength) ?_
      intro n h h'
      rw [List.getElem_map, List.getElem_map]
      exact ih n _ _
  | object hnames _ ih =>
      rw [coerce_object, coerce_object]
      refine .object (by simpa [Keyed.keys, Function.comp_def] using hnames) ?_
      intro name value other hvalue hother
      rw [Keyed.get?_map_values, Option.map_eq_some_iff] at hvalue hother
      obtain ⟨inner, hinner, rfl⟩ := hvalue
      obtain ⟨outer, houter, rfl⟩ := hother
      exact ih name inner outer hinner houter
  | _ => exact .refl _

theorem Reordered.rel_refl (found : Option Json) : Option.Rel Reordered found found := by
  cases found with
  | none => exact .none
  | some value => exact .some (.refl value)

end Json

/-! ## Transforms -/

namespace Transform

theorem term?_eq_of_reordered {value other : Json} (hsame : value.Reordered other) :
    term? value = term? other := by
  cases hsame <;> rfl

theorem filterMap_term?_eq_of_reordered {items others : List Json}
    (hitems : List.Forall₂ Json.Reordered items others) :
    items.filterMap term? = others.filterMap term? := by
  induction hitems with
  | nil => rfl
  | cons hfirst _ ih =>
      rw [List.filterMap_cons, List.filterMap_cons, term?_eq_of_reordered hfirst, ih]

namespace Builtin

theorem rel_onValue {builtin : Builtin} (hbuiltin : builtin ≠ .string) {value other : Json}
    (hsame : value.Reordered other) :
    Option.Rel Json.Reordered (builtin.onValue value) (builtin.onValue other) := by
  cases builtin with
  | length =>
      have hlength : length.onValue value = length.onValue other := by
        cases hsame with
        | array hlength _ => exact congrArg Json.ofNat? hlength
        | object hnames _ =>
            have hlength := hnames.length_eq
            rw [Keyed.keys, Keyed.keys, List.length_map, List.length_map] at hlength
            exact congrArg Json.ofNat? hlength
        | _ => rfl
      rw [hlength]
      exact Json.Reordered.rel_refl _
  | first =>
      rw [onValue_first, onValue_first]
      refine rel_bind hsame.items? fun items others hitems => ?_
      rw [List.head?_eq_getElem?, List.head?_eq_getElem?]
      exact rel_getElem? hitems 0
  | last =>
      rw [onValue_last, onValue_last]
      refine rel_bind hsame.items? fun items others hitems => ?_
      rw [List.getLast?_eq_getElem?, List.getLast?_eq_getElem?, hitems.length_eq]
      exact rel_getElem? hitems _
  | compact =>
      cases hsame with
      | array hlength hitems =>
          refine .some (.of_forall₂ ?_)
          refine List.rel_filter (fun item other hitem => ?_)
            (List.forall₂_iff_get.mpr ⟨hlength, hitems⟩)
          simp only [hitem.isNull_eq]
      | object hnames hvalues => exact .some (.object hnames hvalues)
      | _ => exact .some (.refl _)
  | string => contradiction
  | sum =>
      rw [onValue_sum, onValue_sum]
      refine rel_bind hsame.items? fun items others hitems => ?_
      rw [filterMap_term?_eq_of_reordered hitems]
      exact Json.Reordered.rel_refl _

end Builtin

end Transform

/-! ## Selectors -/

namespace Selector

/-- A selector without a transform, or with any named one but that which gives a value as text. -/
def OverlooksOrder (selector : Selector) : Prop :=
  selector.transform = none ∨
    ∃ builtin : Transform.Builtin, builtin ≠ .string ∧ selector.transform = some builtin.apply

theorem rel_choose {selector : Selector} (hselector : selector.OverlooksOrder)
    {found others : Option Json} (hfound : Option.Rel Json.Reordered found others) :
    Option.Rel Json.Reordered (selector.choose found) (selector.choose others) := by
  rcases hselector with hplain | ⟨builtin, hbuiltin, htransform⟩
  · simp only [choose, hplain]
    cases hfound with
    | none => exact Json.Reordered.rel_refl _
    | @some value other hsame =>
        rw [Option.filter_some, Option.filter_some, hsame.isNull_eq]
        cases other.isNull with
        | true => exact Json.Reordered.rel_refl _
        | false => exact .some hsame
  · simp only [choose, htransform]
    exact rel_bind hfound fun _ _ => Transform.Builtin.rel_onValue hbuiltin

theorem rel_outcome {selector : Selector} (hselector : selector.OverlooksOrder) (coerces : Bool)
    {document reordered : Json} (hsame : document.Reordered reordered) :
    Option.Rel Json.Reordered (selector.outcome coerces document)
      (selector.outcome coerces reordered) := by
  have hfound := Path.resolve_corresponds Json.reordered_correspondence
    (Path.tokenize selector.path) hsame
  have hchosen := rel_choose hselector hfound
  cases coerces with
  | false => exact hchosen
  | true => exact rel_map hchosen fun _ _ hvalue => hvalue.coerce

end Selector

theorem rel_entry?_evaluate {selectors : List Selector}
    (hselectors : ∀ selector ∈ selectors, selector.OverlooksOrder) (coerces : Bool)
    {document reordered : Json} (hsame : document.Reordered reordered) (key : String) :
    Option.Rel (Option.Rel Json.Reordered)
      (Picked.entry? (evaluate selectors document coerces) key)
      (Picked.entry? (evaluate selectors reordered coerces) key) := by
  rw [entry?_evaluate, entry?_evaluate]
  apply Keyed.rel_get?
  apply List.rel_reverse
  rw [outcomes, outcomes, List.forall₂_map_left_iff, List.forall₂_map_right_iff, List.forall₂_same]
  intro selector hselector
  exact ⟨rfl, Selector.rel_outcome (hselectors selector hselector) coerces hsame⟩

/-- Documents that differ in the order of members alone give the same keys in the same order, with
nothing picked for the same keys, and values that differ in the order of members alone. -/
theorem evaluate_reordered {selectors : List Selector}
    (hselectors : ∀ selector ∈ selectors, selector.OverlooksOrder) {document reordered : Json}
    (hsame : document.Reordered reordered) (coerces : Bool) :
    let picked := evaluate selectors document coerces
    let others := evaluate selectors reordered coerces
    picked.keys = others.keys ∧ picked.unresolved = others.unresolved ∧
      ∀ key, Option.Rel Json.Reordered (picked.value? key) (others.value? key) := by
  intro picked others
  have hkeys : picked.keys = others.keys := by
    rw [keys_evaluate, keys_evaluate]
  have hvalues : ∀ key, Option.Rel Json.Reordered (picked.value? key) (others.value? key) :=
    fun key => rel_bind (rel_entry?_evaluate hselectors coerces hsame key) fun _ _ hslot => hslot
  refine ⟨hkeys, ?_, hvalues⟩
  rw [Picked.unresolved_eq_filter, Picked.unresolved_eq_filter, hkeys]
  apply List.filter_congr
  intro key _
  rw [isSome_eq_of_rel (hvalues key)]

def listedRooms : Json :=
  .object [("fee", .null), ("rooms", .array
    [.object [("name", .string "a"), ("beds", .string "2")], .null])]

def shuffledRooms : Json :=
  .object [("rooms", .array
    [.object [("beds", .string "2"), ("name", .string "a")], .null]), ("fee", .null)]

def roomSelectors : List Selector :=
  [⟨"rooms", "rooms", none, some Transform.Builtin.compact.apply⟩,
    ⟨"fee", "fee", some listedRooms, none⟩,
    ⟨"rooms", "rooms[*].beds", none, some Transform.Builtin.first.apply⟩,
    .ofPath "floor"]

theorem evaluate_reordered_rooms :
    (∀ selector ∈ roomSelectors, selector.OverlooksOrder) ∧
    listedRooms.Reordered shuffledRooms ∧
    (evaluate roomSelectors listedRooms true).unresolved =
      (evaluate roomSelectors shuffledRooms true).unresolved ∧
    ∀ key, Option.Rel Json.Reordered
      ((evaluate roomSelectors listedRooms true).value? key)
      ((evaluate roomSelectors shuffledRooms true).value? key) := by
  have hselectors : ∀ selector ∈ roomSelectors, selector.OverlooksOrder := by
    intro selector hmem
    simp only [roomSelectors, List.mem_cons, List.not_mem_nil, or_false] at hmem
    rcases hmem with rfl | rfl | rfl | rfl
    · exact .inr ⟨.compact, by decide, rfl⟩
    · exact .inl rfl
    · exact .inr ⟨.first, by decide, rfl⟩
    · exact .inl rfl
  have hroom : (Json.object [("name", .string "a"), ("beds", .string "2")]).Reordered
      (.object [("beds", .string "2"), ("name", .string "a")]) :=
    .of_perm (by decide) (List.Perm.swap _ _ _)
      (.cons ⟨rfl, .refl _⟩ (.cons ⟨rfl, .refl _⟩ .nil))
  have hrooms : listedRooms.Reordered shuffledRooms :=
    .of_perm (by decide) (List.Perm.swap _ _ _)
      (.cons ⟨rfl, .of_forall₂ (.cons hroom (.cons .null .nil))⟩ (.cons ⟨rfl, .null⟩ .nil))
  obtain ⟨-, hunresolved, hvalues⟩ := evaluate_reordered hselectors hrooms true
  exact ⟨hselectors, hrooms, hunresolved, hvalues⟩

end JsonExtract
