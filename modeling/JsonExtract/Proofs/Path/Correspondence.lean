import Mathlib.Data.List.Forall2
import JsonExtract.Proofs.Keyed
import JsonExtract.Proofs.Path.Fanout
import JsonExtract.Proofs.Path.Numbers

/-!
# Documents that correspond

Documents may correspond in other ways than by being equal.  A relation between documents that
every single look into them keeps is kept by all steps, wildcards included: the induction is on
the steps, and what the relation says of values that may be missing goes along with it.

The first such relation is that one document says no more than another.  Null says nothing, be it
written in a document or left by a wildcard where a value is missing, so a document to which
values and members are added keeps all that could be picked from it.
-/

namespace JsonExtract

/-! ## Steps keep what single looks keep -/

/-- What makes steps keep a relation between documents, `matched` saying what the relation comes to
for values that may be missing. -/
structure Json.Correspondence (related : Json → Json → Prop)
    (matched : Option Json → Option Json → Prop) : Prop where
  some {value other : Json} : related value other → matched (some value) (some other)
  bind {found others : Option Json} (next : Json → Option Json) : matched found others →
    (∀ value other, related value other → matched (next value) (next other)) →
    matched (found.bind next) (others.bind next)
  orNull {found others : Option Json} :
    matched found others → related (found.getD .null) (others.getD .null)
  child? {value other : Json} (name : String) :
    related value other → matched (value.child? name) (other.child? name)
  fanOut {value other : Json} (image : Json → Json) : related value other →
    (∀ value other, related value other → related (image value) (image other)) →
    matched (value.items?.map fun items => .array (items.map image))
      (other.items?.map fun items => .array (items.map image))

theorem Path.resolve_corresponds {related : Json → Json → Prop}
    {matched : Option Json → Option Json → Prop} (hkept : Json.Correspondence related matched)
    (steps : List Step) {value other : Json} (hrelated : related value other) :
    matched (resolve steps value) (resolve steps other) := by
  induction steps generalizing value other with
  | nil => exact hkept.some hrelated
  | cons step rest ih =>
      have hkey : ∀ name, matched (resolve (.key name :: rest) value)
          (resolve (.key name :: rest) other) :=
        fun name => hkept.bind _ (hkept.child? name hrelated) fun _ _ => ih
      cases step with
      | key name => exact hkey name
      | index position =>
          rw [resolve_index_cons, resolve_index_cons]
          exact hkey (toString position)
      | wildcard =>
          exact hkept.fanOut (resolveOrNull rest) hrelated fun _ _ hitem => hkept.orNull (ih hitem)

/-! ## Documents that say more -/

namespace Json

/-- Whether a document says no more than another: null says nothing, arrays have the same length,
and an object may lack members that the other has. -/
inductive Below : Json → Json → Prop where
  | null (other : Json) : Below .null other
  | bool (value : Bool) : Below (.bool value) (.bool value)
  | number (n : Number) : Below (.number n) (.number n)
  | string (s : String) : Below (.string s) (.string s)
  | array {items others : List Json} (hlength : items.length = others.length)
      (hitems : ∀ n (h : n < items.length) (h' : n < others.length), Below items[n] others[n]) :
      Below (.array items) (.array others)
  | object {members others : List (String × Json)}
      (hnames : Keyed.keys members ⊆ Keyed.keys others)
      (hvalues : ∀ name value other, Keyed.get? name members = some value →
        Keyed.get? name others = some other → Below value other) :
      Below (.object members) (.object others)

theorem Below.of_forall₂ {items others : List Json} (hitems : List.Forall₂ Below items others) :
    (Json.array items).Below (.array others) :=
  .array hitems.length_eq (List.forall₂_iff_get.mp hitems).2

theorem Below.of_members {members others : List (String × Json)}
    (hmembers : ∀ member ∈ members, ∃ other, Keyed.get? member.1 others = some other ∧
      member.2.Below other) :
    (Json.object members).Below (.object others) := by
  refine .object ?_ ?_
  · intro name hname
    obtain ⟨member, hmember, rfl⟩ := List.mem_map.mp hname
    obtain ⟨other, hother, -⟩ := hmembers member hmember
    exact Keyed.get?_isSome_iff.mp (Option.isSome_of_eq_some hother)
  · intro name value other hvalue hother
    obtain ⟨earlier, later, rfl, -⟩ := Keyed.get?_eq_some_iff.mp hvalue
    obtain ⟨same, hsame, hbelow⟩ := hmembers (name, value) (by simp)
    obtain rfl := Option.some.inj (hsame.symm.trans hother)
    exact hbelow

/-- What was found says no more than what else was found, and nothing says least. -/
def FoundBelow (found others : Option Json) : Prop :=
  ∀ value, found = some value → ∃ other, others = some other ∧ value.Below other

theorem Below.child? {value other : Json} (hbelow : value.Below other) (name : String) :
    FoundBelow (value.child? name) (other.child? name) := by
  intro inner hinner
  cases hbelow with
  | array hlength hitems =>
      obtain ⟨n, hn, rfl, rfl⟩ := child?_array_eq_some_iff.mp hinner
      have hn' := hlength ▸ hn
      exact ⟨_, child?_array_eq_some_iff.mpr ⟨n, hn', rfl, rfl⟩, hitems n hn hn'⟩
  | object hnames hvalues =>
      have hname := hnames (Keyed.get?_isSome_iff.mp (Option.isSome_of_eq_some hinner))
      obtain ⟨more, hmore⟩ := Option.isSome_iff_exists.mp (Keyed.get?_isSome_iff.mpr hname)
      exact ⟨more, hmore, hvalues name inner more hinner hmore⟩
  | _ => contradiction

theorem Below.items? {value other : Json} (hbelow : value.Below other) {items : List Json}
    (hitems : value.items? = some items) :
    ∃ others, other.items? = some others ∧ List.Forall₂ Below items others := by
  cases hbelow with
  | array hlength hbelow =>
      obtain rfl := Option.some.inj hitems
      exact ⟨_, rfl, List.forall₂_iff_get.mpr ⟨hlength, hbelow⟩⟩
  | _ => contradiction

theorem below_correspondence : Correspondence Below FoundBelow where
  some hbelow := by
    rintro _ ⟨⟩
    exact ⟨_, rfl, hbelow⟩
  bind next hfound hnext := by
    intro result hresult
    obtain ⟨value, hvalue, hresult⟩ := Option.bind_eq_some_iff.mp hresult
    obtain ⟨other, rfl, hbelow⟩ := hfound value hvalue
    exact hnext value other hbelow result hresult
  orNull {found others} hfound := by
    cases found with
    | none => exact .null _
    | some value =>
        obtain ⟨other, rfl, hbelow⟩ := hfound value rfl
        exact hbelow
  child? name hbelow := hbelow.child? name
  fanOut image hbelow himage := by
    intro result hresult
    obtain ⟨items, hitems, rfl⟩ := Option.map_eq_some_iff.mp hresult
    obtain ⟨others, hothers, hitems⟩ := hbelow.items? hitems
    have himages : List.Forall₂ Below (items.map image) (others.map image) :=
      List.rel_map (fun item other hitem => himage item other hitem) hitems
    exact ⟨_, Option.map_eq_some_iff.mpr ⟨others, hothers, rfl⟩, .of_forall₂ himages⟩

end Json

namespace Path

/-- A document that says more has all that could be picked from the other one, and says at least
as much there. -/
theorem resolve_mono {value other : Json} (hbelow : value.Below other) (steps : List Step)
    {result : Json} (hresult : resolve steps value = some result) :
    ∃ more, resolve steps other = some more ∧ result.Below more :=
  resolve_corresponds Json.below_correspondence steps hbelow result hresult

def knownRooms : Json :=
  .object [("rooms", .array [.object [("name", .string "a")], .null])]

def furtherRooms : Json :=
  .object [("fee", .null), ("rooms", .array
    [.object [("beds", .string "2"), ("name", .string "a")], .object [("beds", .string "1")]])]

theorem resolve_mono_rooms :
    let steps : List Step := [.key "rooms", .wildcard, .key "beds"]
    knownRooms.Below furtherRooms ∧
      resolve steps knownRooms = some (.array [.null, .null]) ∧
      ∃ more, resolve steps furtherRooms = some more ∧
        (Json.array [.null, .null]).Below more := by
  intro steps
  have hbelow : knownRooms.Below furtherRooms := by
    have hroom : (Json.object [("name", .string "a")]).Below
        (.object [("beds", .string "2"), ("name", .string "a")]) :=
      .of_members (by simpa using ⟨_, rfl, .string "a"⟩)
    have hrooms : (Json.array [.object [("name", .string "a")], .null]).Below
        (.array [.object [("beds", .string "2"), ("name", .string "a")],
          .object [("beds", .string "1")]]) :=
      .of_forall₂ (.cons hroom (.cons (.null _) .nil))
    exact .of_members (by simpa using ⟨_, rfl, hrooms⟩)
  exact ⟨hbelow, rfl, resolve_mono hbelow steps rfl⟩

end Path

end JsonExtract
