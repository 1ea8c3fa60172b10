import JsonExtract.Json.Fault
import JsonExtract.Proofs.Problem
import JsonExtract.Proofs.Text.Blank

/-!
# Readers that take the front of a text

A reader takes the front of a text and leaves the rest.  What it reads depends on the front alone
if it reads the same off that front in front of every other text that may follow.
-/

namespace JsonExtract.Json

variable {α β : Type} {ends : List Char → Prop} {read : List Char → Except Fault (Split α)}

/-- Whether the last character, if there is one, is no blank. -/
def EndsSolid (front : List Char) : Prop :=
  ∀ c ∈ front.getLast?, Text.isBlank c = false

/-- Whether a reader takes the front of each text that it reads, and reads the same off that front
in front of other texts. -/
def TakesFront (ends : List Char → Prop) (read : List Char → Except Fault (Split α)) : Prop :=
  ∀ ⦃text value rest⦄, read text = .ok (value, rest) →
    ∃ front, text = front ++ rest ∧ EndsSolid front ∧
      ∀ other, ends other → read (front ++ other) = .ok (value, other)

def TakesNothing (read : List Char → Except Fault (Split α)) : Prop :=
  ∀ ⦃text value rest⦄, read text = .ok (value, rest) →
    rest = text ∧ ∀ other, read other = .ok (value, other)

theorem endsSolid_nil : EndsSolid [] :=
  fun _ => nofun

theorem EndsSolid.append {front back : List Char} (hfront : EndsSolid front)
    (hback : EndsSolid back) : EndsSolid (front ++ back) := by
  intro c hc
  rw [List.getLast?_append] at hc
  cases hlast : back.getLast? with
  | none =>
      rw [hlast, Option.none_or] at hc
      exact hfront c hc
  | some last =>
      rw [hlast, Option.some_or] at hc
      exact hback c (hlast.trans hc)

theorem EndsSolid.behind {back : List Char} (hback : EndsSolid back) (hne : back ≠ [])
    (front : List Char) : EndsSolid (front ++ back) := by
  intro c hc
  rw [List.getLast?_append, Option.or_of_isSome (List.getLast?_isSome.mpr hne)] at hc
  exact hback c hc

theorem endsSolid_of_forall {front : List Char} (hfront : ∀ c ∈ front, Text.isBlank c = false) :
    EndsSolid front :=
  fun c hc => hfront c (List.mem_of_getLast? hc)

theorem endsSolid_singleton {c : Char} (hc : Text.isBlank c = false) : EndsSolid [c] :=
  endsSolid_of_forall (List.forall_mem_singleton.mpr hc)

theorem EndsSolid.cons {c : Char} {front : List Char} (hc : Text.isBlank c = false)
    (hfront : EndsSolid front) : EndsSolid (c :: front) :=
  (endsSolid_singleton hc).append hfront

theorem TakesNothing.takesFront (hread : TakesNothing read) : TakesFront ends read := by
  intro text value rest hok
  obtain ⟨rfl, hother⟩ := hread hok
  exact ⟨[], rfl, endsSolid_nil, fun other _ => hother other⟩

theorem takesFront_of_fails (hfails : ∀ text, ∃ fault, read text = .error fault) :
    TakesFront ends read := by
  intro text value rest hok
  obtain ⟨fault, hfault⟩ := hfails text
  rw [hfault] at hok
  contradiction

theorem TakesFront.cons {inner : List Char → Except Fault (Split α)}
    (hinner : TakesFront ends inner) {c : Char}
    (hc : Text.isBlank c = false) (hread : ∀ text, read (c :: text) = inner text)
    {text rest : List Char} {value : α} (hok : read (c :: text) = .ok (value, rest)) :
    ∃ front, c :: text = front ++ rest ∧ EndsSolid front ∧
      ∀ other, ends other → read (front ++ other) = .ok (value, other) := by
  rw [hread] at hok
  obtain ⟨front, rfl, hsolid, hother⟩ := hinner hok
  refine ⟨c :: front, rfl, hsolid.cons hc, ?_⟩
  intro other hends
  rw [List.cons_append, hread]
  exact hother other hends

theorem takesFront_ok (value : α) : TakesFront ends fun text => .ok (value, text) := by
  intro text _ _ hok
  cases hok
  exact ⟨[], rfl, endsSolid_nil, fun _ _ => rfl⟩

/-- One reader after another, the first of which does not mind what follows. -/
theorem TakesFront.bind {next : α → List Char → Except Fault (Split β)}
    (hread : TakesFront (fun _ => True) read) (hnext : ∀ value, TakesFront ends (next value)) :
    TakesFront ends fun text => (read text).bind fun split => next split.1 split.2 := by
  intro text result rest hok
  dsimp only at hok ⊢
  obtain ⟨⟨value, left⟩, hvalue, hrest⟩ := Problem.bind_eq_ok_iff.mp hok
  obtain ⟨front, rfl, hfront, hreads⟩ := hread hvalue
  obtain ⟨back, rfl, hback, hgoes⟩ := hnext value hrest
  refine ⟨front ++ back, (List.append_assoc ..).symm, hfront.append hback, ?_⟩
  intro other hends
  rw [List.append_assoc, Problem.bind_eq_ok_iff]
  exact ⟨(value, back ++ other), hreads _ trivial, hgoes other hends⟩

theorem TakesFront.map (hread : TakesFront ends read) (f : α → β) :
    TakesFront ends fun text => (read text).bind fun split => .ok (f split.1, split.2) := by
  intro text result rest hok
  dsimp only at hok ⊢
  obtain ⟨⟨value, left⟩, hvalue, hrest⟩ := Problem.bind_eq_ok_iff.mp hok
  cases hrest
  obtain ⟨front, rfl, hfront, hreads⟩ := hread hvalue
  refine ⟨front, rfl, hfront, ?_⟩
  intro other hends
  rw [hreads other hends]
  rfl

end JsonExtract.Json
