import JsonExtract.Specification.Reading

/-!
# Aliases as a price

All that a decoder remembers is how many aliases have been followed.  So it comes to a value at a
price, or to no value, whatever was followed before, as long as the document allows for the price.
What several decoders come to has the sum of their prices.
-/

namespace JsonExtract.Yaml.Decode

variable {α β : Type} {document : Document}

/-- What a decoder comes to behind so many aliases, with the number of aliases then. -/
def result? (document : Document) (followed : Nat) (decode : Decode α) : Option (α × Nat) :=
  ((decode.run document).run followed).toOption

def pay (document : Document) (followed price : Nat) : Option Nat :=
  if price = 0 ∨ followed + price ≤ aliasLimit document then some (followed + price) else none

/-- Whether a decoder comes to a value at a price, or to none, whatever was followed before. -/
def ComesTo (document : Document) (decode : Decode α) (outcome : Option (α × Nat)) : Prop :=
  ∀ followed, decode.result? document followed =
    outcome.bind fun priced => (pay document followed priced.2).map (priced.1, ·)

def andThen (outcome : Option (α × Nat)) (next : α → Option (β × Nat)) : Option (β × Nat) :=
  outcome.bind fun first => (next first.1).map fun second => (second.1, first.2 + second.2)

/-- Prices are paid one after the other as their sum is: what is too much in all is too much at the
latest at the end, and a part of it is no more than all of it. -/
theorem pay_add (followed price more : Nat) :
    ((pay document followed price).bind fun held => pay document held more) =
      pay document followed (price + more) := by
  by_cases hall : price + more = 0 ∨ followed + (price + more) ≤ aliasLimit document
  · have hfirst : price = 0 ∨ followed + price ≤ aliasLimit document := by omega
    have hsecond : more = 0 ∨ followed + price + more ≤ aliasLimit document := by omega
    rw [pay, if_pos hfirst, Option.bind_some, pay, if_pos hsecond, pay, if_pos hall, Nat.add_assoc]
  · rw [pay.eq_def document followed (price + more), if_neg hall]
    by_cases hfirst : price = 0 ∨ followed + price ≤ aliasLimit document
    · have hsecond : ¬ (more = 0 ∨ followed + price + more ≤ aliasLimit document) := by omega
      rw [pay, if_pos hfirst, Option.bind_some, pay, if_neg hsecond]
    · rw [pay, if_neg hfirst, Option.bind_none]

theorem result?_bind (decode : Decode α) (next : α → Decode β) (followed : Nat) :
    (decode >>= next).result? document followed =
      (decode.result? document followed).bind fun first =>
        (next first.1).result? document first.2 := by
  unfold result?
  simp only [ReaderT.run_bind, StateT.run_bind]
  cases (decode.run document).run followed <;> rfl

theorem comesTo_pure (value : α) : ComesTo document (pure value) (some (value, 0)) :=
  fun _ => rfl

theorem comesTo_throw (complaint : Complaint) :
    ComesTo document (throw complaint : Decode α) none :=
  fun _ => rfl

theorem ComesTo.bind {decode : Decode α} {next : α → Decode β} {outcome : Option (α × Nat)}
    {nexts : α → Option (β × Nat)} (hdecode : ComesTo document decode outcome)
    (hnext : ∀ value, ComesTo document (next value) (nexts value)) :
    ComesTo document (decode >>= next) (andThen outcome nexts) := by
  intro followed
  rw [result?_bind, hdecode followed]
  cases outcome with
  | none => rfl
  | some first =>
      obtain ⟨value, price⟩ := first
      have hpaid : ∀ held, (next value).result? document held =
          (nexts value).bind fun priced => (pay document held priced.2).map (priced.1, ·) :=
        hnext value
      rw [andThen, Option.bind_some, Option.bind_some, Option.bind_map]
      cases hsecond : nexts value with
      | none =>
          simp [hpaid, hsecond]
      | some second =>
          simp only [Function.comp_def, hpaid, hsecond, Option.bind_some, Option.map_some]
          rw [← pay_add, Option.map_bind]
          rfl

theorem ComesTo.map {decode : Decode α} {outcome : Option (α × Nat)}
    (hdecode : ComesTo document decode outcome) (f : α → β) :
    ComesTo document (f <$> decode) (outcome.map fun priced => (f priced.1, priced.2)) := by
  have hvalue : andThen outcome (fun value => some (f value, 0)) =
      outcome.map fun priced => (f priced.1, priced.2) := by
    cases outcome <;> rfl
  rw [map_eq_pure_bind, ← hvalue]
  exact hdecode.bind fun value => comesTo_pure (f value)

/-- Whether there is something that a decoder comes to. -/
def Steady (document : Document) (decode : Decode α) : Prop :=
  ∃ outcome, ComesTo document decode outcome

theorem steady_pure (value : α) : Steady document (pure value) :=
  ⟨_, comesTo_pure value⟩

theorem steady_throw (complaint : Complaint) : Steady document (throw complaint : Decode α) :=
  ⟨_, comesTo_throw complaint⟩

theorem Steady.bind {decode : Decode α} {next : α → Decode β} (hdecode : Steady document decode)
    (hnext : ∀ value, Steady document (next value)) : Steady document (decode >>= next) := by
  obtain ⟨outcome, houtcome⟩ := hdecode
  obtain ⟨nexts, hnexts⟩ := Classical.skolem.mp hnext
  exact ⟨_, houtcome.bind hnexts⟩

theorem Steady.map {decode : Decode α} (hdecode : Steady document decode) (f : α → β) :
    Steady document (f <$> decode) := by
  obtain ⟨outcome, houtcome⟩ := hdecode
  exact ⟨_, houtcome.map f⟩

theorem steady_mapM {f : α → Decode β} (hf : ∀ a, Steady document (f a)) (list : List α) :
    Steady document (list.mapM f) := by
  induction list with
  | nil =>
      rw [List.mapM_nil]
      exact steady_pure []
  | cons a rest ih =>
      rw [List.mapM_cons]
      exact (hf a).bind fun b => ih.bind fun others => steady_pure (b :: others)

/-! ## Nodes -/

theorem result?_placing (decode : Decode α) (route : Route) (mark : Mark) (followed : Nat) :
    (placing route mark decode).result? document followed =
      decode.result? document followed := by
  unfold result?
  change (tryCatch ((decode.run document).run followed) _).toOption = _
  cases (decode.run document).run followed <;> rfl

theorem result?_onNode {node : Node} (hfollow : follow node = pure node) (route : Route)
    (decode : Node → Decode α) (followed : Nat) :
    (onNode route node decode).result? document followed =
      (decode node).result? document followed := by
  rw [onNode, hfollow, pure_bind, result?_placing]

theorem Steady.placing {decode : Decode α} (hdecode : Steady document decode) (route : Route)
    (mark : Mark) : Steady document (placing route mark decode) := by
  obtain ⟨outcome, houtcome⟩ := hdecode
  exact ⟨outcome, fun followed => (result?_placing _ _ _ followed).trans (houtcome followed)⟩

theorem steady_follow (node : Node) : Steady document (follow node) := by
  match node with
  | .alias mark number =>
      let target := (document.anchor? number).getD (.alias mark number)
      refine ⟨some (target, 1), fun followed => ?_⟩
      have hrun : (follow (.alias mark number)).result? document followed =
          result? document (followed + 1)
            (if aliasLimit document < followed + 1 then throw .tooManyAliases else pure target) :=
        rfl
      rw [hrun, Option.bind_some, pay]
      by_cases hlimit : aliasLimit document < followed + 1
      · rw [if_pos hlimit, if_neg (by omega)]
        rfl
      · rw [if_neg hlimit, if_pos (by omega)]
        rfl
  | .scalar .. => exact steady_pure _
  | .sequence .. => exact steady_pure _
  | .mapping .. => exact steady_pure _

theorem steady_onNode {decode : Node → Decode α} (hdecode : ∀ node, Steady document (decode node))
    (route : Route) (node : Node) : Steady document (onNode route node decode) :=
  (steady_follow node).bind fun node => (hdecode node).placing route node.mark

theorem steady_mismatch (expected : String) (node : Node) :
    Steady document (mismatch expected node : Decode α) := by
  cases node with
  | scalar mark tag value style =>
      unfold mismatch complain
      dsimp only
      split
      · exact steady_throw _
      · exact steady_throw _
  | _ => exact steady_throw _

theorem steady_text (expected : String) (route : Route) (node : Node) :
    Steady document (text expected route node) := by
  apply steady_onNode
  intro node
  cases node with
  | scalar mark tag value style => exact steady_pure value
  | _ => exact steady_mismatch expected _

/-! ## Documents -/

theorem steady_eachItem {decode : Route → Node → Decode α}
    (hdecode : ∀ route node, Steady document (decode route node)) (route : Route)
    (items : List Node) : Steady document (eachItem route items decode) := by
  apply steady_mapM
  rintro ⟨item, position⟩
  exact hdecode (.item position :: route) item

theorem steady_jsonWith {inner : Option (Route → Node → Decode Json)}
    (hinner : ∀ decode ∈ inner, ∀ route node, Steady document (decode route node)) (route : Route)
    (node : Node) : Steady document (jsonWith inner route node) := by
  apply steady_onNode
  intro node
  cases node with
  | scalar mark tag value style =>
      dsimp only
      split
      · exact steady_throw _
      · split <;> try exact steady_throw _
        · exact steady_pure _
        · exact steady_pure _
        · exact steady_pure _
        · exact steady_pure _
        · split
          · exact steady_pure _
          · exact steady_throw _
  | sequence mark tag items =>
      dsimp only
      split
      · exact steady_throw _
      · cases inner with
        | none => exact steady_throw _
        | some decode =>
            have hitems := steady_eachItem (hinner decode rfl) route items
            exact hitems.map Json.array
  | mapping mark tag entries =>
      dsimp only
      split
      · exact steady_throw _
      · cases inner with
        | none => exact steady_throw _
        | some decode =>
            refine Steady.bind ?_ fun members => steady_pure (Json.object (Keyed.collect members))
            apply steady_mapM
            rintro ⟨⟨key, value⟩, position⟩
            refine (steady_text _ route key).bind fun name => ?_
            exact (hinner decode rfl _ value).bind fun member => steady_pure (name, member)
  | _ => exact steady_mismatch _ _

theorem steady_json (depth : Nat) (route : Route) (node : Node) :
    Steady document (json depth route node) := by
  induction depth generalizing route node with
  | zero =>
      refine steady_jsonWith ?_ route node
      exact fun decode hdecode => absurd hdecode (Option.not_mem_none decode)
  | succ depth ih =>
      refine steady_jsonWith ?_ route node
      rintro decode ⟨⟩
      exact ih

end JsonExtract.Yaml.Decode
