import Mathlib.Data.List.Forall2
import JsonExtract.Proofs.Keyed
import JsonExtract.Specification.Reading

/-!
# Documents written as nodes

A scalar writes what it means, a sequence an array, and a mapping an object with its members in
their order.  A decoder reads every document that is written in this way, if the document has no
more containers inside each other than the decoder has room for, and it complains about all
others.
-/

namespace JsonExtract

namespace Json

/-- Whether at most so many containers are inside each other. -/
def NestsWithin : Nat → Json → Prop
  | 0, .array _ => False
  | 0, .object _ => False
  | depth + 1, .array items => ∀ item ∈ items, item.NestsWithin depth
  | depth + 1, .object members => ∀ member ∈ members, member.2.NestsWithin depth
  | _, _ => True

end Json

namespace Yaml

theorem exists_mem_of_forall₂ {α β : Type} {R : α → β → Prop} {as : List α} {bs : List β}
    (h : List.Forall₂ R as bs) {a : α} (ha : a ∈ as) : ∃ b ∈ bs, R a b := by
  induction h with
  | nil => contradiction
  | @cons first other _ _ hfirst _ ih =>
      rcases List.mem_cons.mp ha with rfl | hrest
      · exact ⟨other, List.mem_cons_self, hfirst⟩
      · obtain ⟨b, hb, hab⟩ := ih hrest
        exact ⟨b, List.mem_cons_of_mem other hb, hab⟩

/-! ## Nodes that write a document -/

inductive Value.Denotes : Value → Json → Prop where
  | null : Denotes .null .null
  | bool (value : Bool) : Denotes (.bool value) (.bool value)
  | text (value : String) : Denotes (.text value) (.string value)
  | integer {value : Int} {n : Number} (hn : Number.ofInt? value = some n) :
      Denotes (.integer value) (.number n)
  | float {value : Float} {n : Number} (hn : Number.ofFloat? value = some n) :
      Denotes (.float value) (.number n)

namespace Node

def HasText (text : String) : Node → Prop
  | .scalar _ _ value _ => value = text
  | _ => False

def HasBool (value : Bool) : Node → Prop
  | .scalar _ _ text .plain => Value.bool? text = some value
  | _ => False

/-- The nodes without tags and aliases that write a document. -/
inductive Writes : Json → Node → Prop where
  | scalar {value : Json} {meaning : Value} {mark : Mark} {text : String} {style : ScalarStyle}
      (hmeaning : Value.ofScalar none text style = .ok meaning)
      (hvalue : meaning.Denotes value) :
      Writes value (.scalar mark none text style)
  | sequence {items : List Json} {mark : Mark} {nodes : List Node}
      (hitems : List.Forall₂ Writes items nodes) :
      Writes (.array items) (.sequence mark none nodes)
  | mapping {members : List (String × Json)} {mark : Mark} {entries : List (Node × Node)}
      (hdistinct : (Keyed.keys members).Nodup)
      (hnames : List.Forall₂ HasText (members.map Prod.fst) (entries.map Prod.fst))
      (hvalues : List.Forall₂ Writes (members.map Prod.snd) (entries.map Prod.snd)) :
      Writes (.object members) (.mapping mark none entries)

end Node

namespace Decode

variable {α β : Type}

/-! ## Decoders that succeed -/

theorem placing_pure (route : Route) (mark : Mark) (value : α) :
    placing route mark (pure value) = pure value := rfl

/-- What is decoded from a node that is not followed elsewhere. -/
theorem onNode_eq_pure {route : Route} {node : Node} {decode : Node → Decode α} {value : α}
    (hfollow : follow node = pure node) (hdecode : decode node = pure value) :
    onNode route node decode = pure value := by
  rw [onNode, hfollow, pure_bind, hdecode, placing_pure]

theorem text_of_hasText {text : String} {node : Node} (hnode : node.HasText text)
    (expected : String) (route : Route) : Decode.text expected route node = pure text := by
  cases node with
  | scalar mark tag value style =>
      cases hnode
      exact onNode_eq_pure rfl rfl
  | _ => exact hnode.elim

theorem bool_of_hasBool {value : Bool} {node : Node} (hnode : node.HasBool value)
    (route : Route) : Decode.bool route node = pure value := by
  cases node with
  | scalar mark tag text style =>
      cases style with
      | plain =>
          refine onNode_eq_pure rfl ?_
          have hvalue : Value.bool? text = some value := hnode
          simp only [mayHold, decide_true, Bool.true_or, if_true, hvalue]
      | _ => exact hnode.elim
  | _ => exact hnode.elim

/-- A list is decoded item by item, with the position of each. -/
theorem mapM_zipIdx_eq_pure (values : List β) {f : α × Nat → Decode β} {items : List α}
    (h : List.Forall₂ (fun value item => ∀ position, f (item, position) = pure value) values items)
    (start : Nat) : (items.zipIdx start).mapM f = pure values := by
  induction h generalizing start with
  | nil => rw [List.zipIdx_nil, List.mapM_nil]
  | cons hfirst _ ih =>
      rw [List.zipIdx_cons, List.mapM_cons, hfirst, ih]
      simp only [pure_bind]

theorem eachItem_eq_pure {route : Route} {values : List α} {items : List Node}
    {decode : Route → Node → Decode α}
    (h : List.Forall₂ (fun value item => ∀ route, decode route item = pure value) values items) :
    eachItem route items decode = pure values :=
  mapM_zipIdx_eq_pure values (h.imp fun _ _ hitem position => hitem (.item position :: route)) 0

/-! ## Decoders that fail -/

/-- Whether a decoder complains, whatever has been read before. -/
def Fails (decode : Decode α) : Prop :=
  ∀ document followed, ∃ complaint, (decode.run document).run followed = .error complaint

theorem fails_throw (complaint : Complaint) : Fails (throw complaint : Decode α) := by
  intro document followed
  exact ⟨complaint, rfl⟩

theorem Fails.bind {decode : Decode α} (hfails : decode.Fails) (next : α → Decode β) :
    Fails (decode >>= next) := by
  intro document followed
  obtain ⟨complaint, hcomplaint⟩ := hfails document followed
  exact ⟨complaint, by simp only [ReaderT.run_bind, StateT.run_bind, hcomplaint]; rfl⟩

theorem fails_bind {next : α → Decode β} (hfails : ∀ value, (next value).Fails)
    (decode : Decode α) : Fails (decode >>= next) := by
  intro document followed
  simp only [ReaderT.run_bind, StateT.run_bind]
  cases (decode.run document).run followed with
  | error complaint => exact ⟨complaint, rfl⟩
  | ok result => exact hfails result.1 document result.2

theorem Fails.placing {decode : Decode α} (hfails : decode.Fails) (route : Route) (mark : Mark) :
    (placing route mark decode).Fails := by
  intro document followed
  obtain ⟨complaint, hcomplaint⟩ := hfails document followed
  refine ⟨complaint.place route mark, ?_⟩
  change tryCatch ((decode.run document).run followed) _ = _
  rw [hcomplaint]
  rfl

theorem onNode_fails {node : Node} {decode : Node → Decode α} (hfollow : follow node = pure node)
    (hfails : (decode node).Fails) (route : Route) : (onNode route node decode).Fails := by
  rw [onNode, hfollow, pure_bind]
  exact hfails.placing route node.mark

theorem mapM_zipIdx_fails {f : α × Nat → Decode β} {items : List α} {item : α}
    (hmem : item ∈ items) (hfails : ∀ position, (f (item, position)).Fails) (start : Nat) :
    ((items.zipIdx start).mapM f).Fails := by
  induction hmem generalizing start with
  | head rest =>
      rw [List.zipIdx_cons, List.mapM_cons]
      exact (hfails start).bind _
  | tail first _ ih =>
      rw [List.zipIdx_cons, List.mapM_cons]
      exact fails_bind (fun _ => (ih (start + 1)).bind _) _

theorem foldlM_fails {f : β → α → Decode β} {items : List α} {item : α} (hmem : item ∈ items)
    (hfails : ∀ state, (f state item).Fails) (start : β) : (items.foldlM f start).Fails := by
  induction hmem generalizing start with
  | head rest =>
      rw [List.foldlM_cons]
      exact (hfails start).bind _
  | tail first _ ih =>
      rw [List.foldlM_cons]
      exact fails_bind (fun next => ih next) _

/-! ## Reading documents -/

theorem jsonWith_scalar {value : Json} {meaning : Value} {text : String} {style : ScalarStyle}
    (hmeaning : Value.ofScalar none text style = .ok meaning) (hvalue : meaning.Denotes value)
    (inner : Option (Route → Node → Decode Json)) (route : Route) (mark : Mark) :
    jsonWith inner route (.scalar mark none text style) = pure value := by
  refine onNode_eq_pure rfl ?_
  simp only [Option.any_none, Bool.false_eq_true, if_false, hmeaning]
  cases hvalue with
  | null => rfl
  | bool value => rfl
  | text value => rfl
  | integer hn => simp only [hn]
  | float hn => simp only [hn, Option.map_some, Option.getD_some]

theorem jsonWith_sequence {inner : Route → Node → Decode Json} {items : List Json}
    {nodes : List Node}
    (hitems : List.Forall₂ (fun item node => ∀ route, inner route node = pure item) items nodes)
    (route : Route) (mark : Mark) :
    jsonWith (some inner) route (.sequence mark none nodes) = pure (.array items) := by
  refine onNode_eq_pure rfl ?_
  simp only [Option.any_none, Bool.false_eq_true, if_false, eachItem_eq_pure hitems, pure_bind]

theorem jsonWith_mapping {inner : Route → Node → Decode Json} {members : List (String × Json)}
    {entries : List (Node × Node)} (hdistinct : (Keyed.keys members).Nodup)
    (hnames : List.Forall₂ Node.HasText (members.map Prod.fst) (entries.map Prod.fst))
    (hvalues : List.Forall₂ (fun value node => ∀ route, inner route node = pure value)
      (members.map Prod.snd) (entries.map Prod.snd)) (route : Route) (mark : Mark) :
    jsonWith (some inner) route (.mapping mark none entries) = pure (.object members) := by
  rw [List.forall₂_map_left_iff, List.forall₂_map_right_iff] at hnames hvalues
  refine onNode_eq_pure rfl ?_
  simp only [Option.any_none, Bool.false_eq_true, if_false]
  rw [mapM_zipIdx_eq_pure members]
  · rw [pure_bind, Keyed.collect_of_nodup hdistinct]
  · refine List.Forall₂.mp ?_ hnames hvalues
    intro member entry hname hvalue position
    simp only [text_of_hasText hname, hvalue, pure_bind]

/-- A document is read back from a node that writes it, if the decoder has room for it. -/
theorem json_of_writes {value : Json} {node : Node} {depth : Nat} (hwrites : node.Writes value)
    (hnests : value.NestsWithin depth) (route : Route) : json depth route node = pure value := by
  induction depth generalizing value node route with
  | zero =>
      cases hwrites with
      | scalar hmeaning hvalue => exact jsonWith_scalar hmeaning hvalue none route _
      | sequence => exact hnests.elim
      | mapping => exact hnests.elim
  | succ depth ih =>
      cases hwrites with
      | scalar hmeaning hvalue => exact jsonWith_scalar hmeaning hvalue _ route _
      | sequence hitems =>
          apply jsonWith_sequence
          refine ((List.forall₂_and_left _ _).mpr ⟨hnests, hitems⟩).imp ?_
          intro item node hitem
          exact ih hitem.2 hitem.1
      | mapping hdistinct hnames hvalues =>
          refine jsonWith_mapping hdistinct hnames ?_ route _
          have hroom := List.forall_mem_map.mpr hnests
          refine ((List.forall₂_and_left _ _).mpr ⟨hroom, hvalues⟩).imp ?_
          intro value node hvalue
          exact ih hvalue.2 hvalue.1

/-! ## Documents that are nested too deep -/

theorem jsonWith_sequence_fails {inner : Route → Node → Decode Json} {nodes : List Node}
    {node : Node} (hnode : node ∈ nodes) (hfails : ∀ route, (inner route node).Fails)
    (route : Route) (mark : Mark) :
    (jsonWith (some inner) route (.sequence mark none nodes)).Fails := by
  refine onNode_fails rfl ?_ route
  simp only [Option.any_none, Bool.false_eq_true, if_false]
  exact (mapM_zipIdx_fails hnode (fun position => hfails _) 0).bind _

theorem jsonWith_mapping_fails {inner : Route → Node → Decode Json}
    {entries : List (Node × Node)} {entry : Node × Node} (hentry : entry ∈ entries)
    (hfails : ∀ route, (inner route entry.2).Fails) (route : Route) (mark : Mark) :
    (jsonWith (some inner) route (.mapping mark none entries)).Fails := by
  refine onNode_fails rfl ?_ route
  simp only [Option.any_none, Bool.false_eq_true, if_false]
  refine (mapM_zipIdx_fails hentry (fun position => ?_) 0).bind _
  exact fails_bind (fun name => (hfails _).bind _) _

/-- A decoder without room for a document fails on a node that writes it. -/
theorem json_fails {value : Json} {node : Node} {depth : Nat} (hwrites : node.Writes value)
    (hdeep : ¬ value.NestsWithin depth) (route : Route) : (json depth route node).Fails := by
  induction depth generalizing value node route with
  | zero =>
      cases hwrites with
      | scalar _ hvalue => exact absurd (by cases hvalue <;> trivial) hdeep
      | sequence => exact onNode_fails rfl (fails_throw _) route
      | mapping => exact onNode_fails rfl (fails_throw _) route
  | succ depth ih =>
      cases hwrites with
      | scalar _ hvalue => exact absurd (by cases hvalue <;> trivial) hdeep
      | sequence hitems =>
          simp only [Json.NestsWithin, not_forall] at hdeep
          obtain ⟨item, hitem, hdeep⟩ := hdeep
          obtain ⟨node, hnode, hwrites⟩ := exists_mem_of_forall₂ hitems hitem
          exact jsonWith_sequence_fails hnode (fun route => ih hwrites hdeep route) route _
      | mapping _ _ hvalues =>
          simp only [Json.NestsWithin, not_forall] at hdeep
          obtain ⟨member, hmember, hdeep⟩ := hdeep
          obtain ⟨node, hnode, hwrites⟩ :=
            exists_mem_of_forall₂ hvalues (List.mem_map_of_mem hmember)
          obtain ⟨entry, hentry, rfl⟩ := List.mem_map.mp hnode
          exact jsonWith_mapping_fails hentry (fun route => ih hwrites hdeep route) route _

end Decode

end Yaml

/-! ## Arrays inside each other -/

open Yaml (Node)

def Json.nested : Nat → Json
  | 0 => .array []
  | depth + 1 => .array [nested depth]

theorem Json.nestsWithin_nested {depth limit : Nat} :
    (nested depth).NestsWithin limit ↔ depth < limit := by
  induction depth generalizing limit with
  | zero => cases limit <;> simp [nested, NestsWithin]
  | succ depth ih => cases limit <;> simp [nested, NestsWithin, ih]

def Yaml.Node.isNested : Nat → Node → Bool
  | 0, .sequence _ none [] => true
  | depth + 1, .sequence _ none [node] => isNested depth node
  | _, _ => false

theorem Yaml.Node.writes_of_isNested {depth : Nat} {node : Node}
    (hnode : node.isNested depth = true) : node.Writes (.nested depth) := by
  fun_induction isNested depth node with
  | case1 => exact .sequence .nil
  | case2 depth _ node ih => exact .sequence (.cons (ih hnode) .nil)
  | case3 => contradiction

end JsonExtract
