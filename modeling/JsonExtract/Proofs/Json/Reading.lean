import Mathlib.Data.List.DropRight
import JsonExtract.Proofs.Json.Containers
import JsonExtract.Proofs.Keyed
import JsonExtract.Proofs.Yaml.Writing

/-!
# Documents between blanks

What a reader of documents takes off a text depends on no more of the text than that, so what is
left of a text without the blanks around it holds the same document.  No document that is read
has more containers inside each other than the limit.
-/

namespace JsonExtract.Json.Reader

variable {ends : List Char → Prop} {item : List Char → Except Fault (Split Json)}
  {text rest : List Char}

/-- Whether a reader does not care about blanks in front of a value. -/
def PassesBlanks (item : List Char → Except Fault (Split Json)) : Prop :=
  ∀ text, item (skipBlanks text) = item text

theorem named_eq_ok_iff (hpasses : PassesBlanks item) {entry : String × Json} :
    named item text = .ok (entry, rest) ↔
      ∃ inside left after, text = '"' :: inside ∧ readString inside = .ok (entry.1, left) ∧
        skipBlanks left = ':' :: after ∧ item after = .ok (entry.2, rest) := by
  constructor
  · intro hok
    unfold named at hok
    split at hok
    · rename_i inside
      obtain ⟨⟨name, left⟩, hname, hrest⟩ := Problem.bind_eq_ok_iff.mp hok
      dsimp only at hrest
      split at hrest
      · contradiction
      · rename_i after hcolon
        obtain ⟨⟨value, left⟩, hvalue, hpair⟩ := Problem.bind_eq_ok_iff.mp hrest
        cases hpair
        rw [hpasses] at hvalue
        exact ⟨inside, _, after, rfl, hname, hcolon, hvalue⟩
      · contradiction
    · contradiction
  · rintro ⟨inside, left, after, rfl, hname, hcolon, hvalue⟩
    simp only [named, member, hname, bind, Except.bind, hcolon, hpasses after, hvalue]

theorem takesFront_named (hitem : TakesFront EndsNumber item) (hpasses : PassesBlanks item) :
    TakesFront EndsNumber (named item) := by
  intro text entry rest hok
  obtain ⟨inside, left, after, rfl, hname, hcolon, hvalue⟩ := (named_eq_ok_iff hpasses).mp hok
  have hstring : TakesFront (fun _ => True) readString := takesFront_readString
  obtain ⟨name, rfl, -, hreads⟩ := hstring hname
  obtain ⟨blanks, -, rfl, hskips⟩ := exists_blanks_of_skipBlanks hcolon
  obtain ⟨value, rfl, hsolid, htakes⟩ := hitem hvalue
  refine ⟨'"' :: (name ++ (blanks ++ ':' :: value)), by simp, ?_, ?_⟩
  · have hback : EndsSolid (':' :: value) := hsolid.cons (by decide)
    have hend := (hback.behind (List.cons_ne_nil _ _) blanks).behind (by simp) name
    exact hend.cons (by decide)
  · intro other hends
    apply (named_eq_ok_iff hpasses).mpr
    exact ⟨name ++ (blanks ++ ':' :: (value ++ other)), _, _, by simp, hreads _ trivial,
      hskips (value ++ other), htakes other hends⟩

theorem takesFront_readArray (hitem : TakesFront EndsNumber item) :
    TakesFront ends (readArray item) := by
  rw [funext (readArray_eq_container item)]
  exact takesFront_container hitem (by decide) (by decide) (by decide) _

theorem takesFront_readObject (hitem : TakesFront EndsNumber item)
    (hpasses : PassesBlanks item) : TakesFront ends (readObject item) := by
  rw [funext (readObject_eq_container item)]
  have hnamed : TakesFront EndsNumber (named item) := takesFront_named hitem hpasses
  exact takesFront_container hnamed (by decide) (by decide) (by decide) _

theorem readWith_of_isDigit {inner : Option (List Char → Except Fault (Split Json))} {c : Char}
    (hc : c.isDigit = true) (text : List Char) :
    readWith inner (c :: text) =
      (Numeral.read false (c :: text)).bind fun n => .ok (.number n.1, n.2) := by
  rw [readWith]
  · rw [if_pos hc]
    rfl
  all_goals
    rintro rfl
    revert hc
    decide

theorem takesFront_readWith {inner : Option (List Char → Except Fault (Split Json))}
    (hinner : ∀ item ∈ inner, TakesFront EndsNumber item ∧ PassesBlanks item) :
    TakesFront EndsNumber (readWith inner) := by
  intro text value rest hok
  unfold readWith at hok
  split at hok
  · contradiction
  · exact (takesFront_word .null (by decide)).cons (by decide) (fun _ => rfl) hok
  · exact (takesFront_word (.bool true) (by decide)).cons (by decide) (fun _ => rfl) hok
  · exact (takesFront_word (.bool false) (by decide)).cons (by decide) (fun _ => rfl) hok
  · have hstring : TakesFront EndsNumber readString := takesFront_readString
    exact (hstring.map Json.string).cons (by decide) (fun _ => rfl) hok
  · have hnumeral := Numeral.takesFront_read true
    exact (hnumeral.map Json.number).cons (by decide) (fun _ => rfl) hok
  · split at hok
    · rename_i item
      obtain ⟨hitem, -⟩ := hinner item rfl
      exact (takesFront_readArray hitem).cons (by decide) (fun _ => rfl) hok
    · contradiction
  · split at hok
    · rename_i item
      obtain ⟨hitem, hpasses⟩ := hinner item rfl
      exact (takesFront_readObject hitem hpasses).cons (by decide) (fun _ => rfl) hok
    · contradiction
  · split at hok
    · rename_i c more _ _ _ _ _ _ _ hc
      have hnumeral := (Numeral.takesFront_read false).map Json.number
      obtain ⟨front, htext, hsolid, hother⟩ := hnumeral hok
      -- A numeral starts with its digit, by which it is known for a numeral.
      cases front with
      | nil =>
          have hnone := hother [] (by decide)
          contradiction
      | cons first front =>
          obtain ⟨rfl, rfl⟩ := List.cons.inj htext
          refine ⟨_ :: front, rfl, hsolid, ?_⟩
          intro other hends
          rw [List.cons_append, readWith_of_isDigit hc]
          exact hother other hends
    · contradiction

theorem isBlank_of_readWith {inner : Option (List Char → Except Fault (Split Json))}
    {result : Split Json} (hok : readWith inner text = .ok result) :
    ∀ c ∈ text.head?, Text.isBlank c = false := by
  intro c hc
  unfold readWith at hok
  split at hok
  case h_9 =>
      cases hc
      split at hok
      · rename_i hdigit
        exact isBlank_of_isDigit hdigit
      · contradiction
  all_goals
    cases hc
  all_goals
    decide

theorem takesFront_afterBlanks {read : List Char → Except Fault (Split Json)}
    (hread : TakesFront EndsNumber read) (hnil : ∀ result, read [] ≠ .ok result) :
    TakesFront EndsNumber fun text => read (skipBlanks text) := by
  intro text value rest hok
  obtain ⟨front, htext, hsolid, hother⟩ := hread hok
  cases front with
  | nil => exact absurd (hother [] (by decide)) (hnil _)
  | cons c front =>
      obtain ⟨blanks, -, rfl, hskips⟩ := exists_blanks_of_skipBlanks htext
      refine ⟨blanks ++ c :: front, by simp, hsolid.behind (List.cons_ne_nil _ _) blanks, ?_⟩
      intro other hends
      have hskip := hskips (front ++ other)
      dsimp only
      rw [List.append_assoc, List.cons_append, hskip]
      exact hother other hends

theorem skipBlanks_skipBlanks (text : List Char) :
    skipBlanks (skipBlanks text) = skipBlanks text :=
  List.dropWhile_idempotent isBlank text

theorem readWith_nil (inner : Option (List Char → Except Fault (Split Json)))
    (result : Split Json) : readWith inner [] ≠ .ok result :=
  nofun

theorem passesBlanks_readValue (depth : Nat) : PassesBlanks (readValue depth) := by
  intro text
  cases depth with
  | zero => rw [readValue, readValue, skipBlanks_skipBlanks]
  | succ depth => rw [readValue, readValue, skipBlanks_skipBlanks]

theorem takesFront_readValue (depth : Nat) : TakesFront EndsNumber (readValue depth) := by
  induction depth with
  | zero =>
      have hread : TakesFront EndsNumber (readWith none) := takesFront_readWith (fun _ => nofun)
      exact takesFront_afterBlanks hread (readWith_nil none)
  | succ depth ih =>
      have hread : TakesFront EndsNumber (readWith (some (readValue depth))) := by
        apply takesFront_readWith
        intro item hitem
        cases hitem
        exact ⟨ih, passesBlanks_readValue depth⟩
      exact takesFront_afterBlanks hread (readWith_nil _)

/-! ## Nesting -/

theorem value_of_word {expected : String} {value result : Json}
    (hok : word expected value text = .ok (result, rest)) : result = value := by
  obtain ⟨_, _, hpair⟩ := Problem.bind_eq_ok_iff.mp hok
  cases hpair
  rfl

/-- What is read is no container, or the container of the values that it encloses. -/
theorem nestsWithin_or_container {inner : Option (List Char → Except Fault (Split Json))}
    {value : Json} (hok : readWith inner text = .ok (value, rest)) :
    (∀ depth, value.NestsWithin depth) ∨ ∃ item ∈ inner, ∃ inside,
      readArray item inside = .ok (value, rest) ∨ readObject item inside = .ok (value, rest) := by
  have hword {expected : String} {scalar : Json} {left : List Char}
      (hread : word expected scalar left = .ok (value, rest))
      (hscalar : ∀ depth, scalar.NestsWithin depth) : ∀ depth, value.NestsWithin depth := by
    rw [value_of_word hread]
    exact hscalar
  have hstring (s : String) : ∀ depth, (Json.string s).NestsWithin depth := by
    intro depth
    cases depth <;> trivial
  have hnumber (n : Number) : ∀ depth, (Json.number n).NestsWithin depth := by
    intro depth
    cases depth <;> trivial
  have hbool (b : Bool) : ∀ depth, (Json.bool b).NestsWithin depth := by
    intro depth
    cases depth <;> trivial
  unfold readWith at hok
  split at hok
  · contradiction
  · exact .inl (hword hok fun depth => by cases depth <;> trivial)
  · exact .inl (hword hok (hbool true))
  · exact .inl (hword hok (hbool false))
  · obtain ⟨s, _, hpair⟩ := Problem.bind_eq_ok_iff.mp hok
    cases hpair
    exact .inl (hstring _)
  · obtain ⟨n, _, hpair⟩ := Problem.bind_eq_ok_iff.mp hok
    cases hpair
    exact .inl (hnumber _)
  · split at hok
    · exact .inr ⟨_, rfl, _, .inl hok⟩
    · contradiction
  · split at hok
    · exact .inr ⟨_, rfl, _, .inr hok⟩
    · contradiction
  · split at hok
    · obtain ⟨n, _, hpair⟩ := Problem.bind_eq_ok_iff.mp hok
      cases hpair
      exact .inl (hnumber _)
    · contradiction

theorem nestsWithin_of_readArray {depth : Nat} (hitem : TakesFront EndsNumber item)
    (hnests : ∀ {text rest value}, item text = .ok (value, rest) → value.NestsWithin depth)
    {value : Json} (hok : readArray item text = .ok (value, rest)) :
    value.NestsWithin (depth + 1) := by
  rw [readArray_eq_container,
    container_eq_ok_iff hitem (by decide) (by decide) (by decide)] at hok
  obtain ⟨values, hencloses, rfl⟩ := hok
  intro element helement
  obtain ⟨_, _, hread⟩ := hencloses.exists_of_mem element helement
  exact hnests hread

theorem nestsWithin_of_readObject {depth : Nat} (hitem : TakesFront EndsNumber item)
    (hpasses : PassesBlanks item)
    (hnests : ∀ {text rest value}, item text = .ok (value, rest) → value.NestsWithin depth)
    {value : Json} (hok : readObject item text = .ok (value, rest)) :
    value.NestsWithin (depth + 1) := by
  have hnamed : TakesFront EndsNumber (named item) := takesFront_named hitem hpasses
  rw [readObject_eq_container,
    container_eq_ok_iff hnamed (by decide) (by decide) (by decide)] at hok
  obtain ⟨values, hencloses, rfl⟩ := hok
  intro entry hentry
  obtain ⟨_, _, hread⟩ :=
    hencloses.exists_of_mem entry (Keyed.mem_of_mem_collect hentry)
  obtain ⟨_, _, _, _, _, _, hvalue⟩ := (named_eq_ok_iff hpasses).mp hread
  exact hnests hvalue

theorem nestsWithin_of_readValue {depth : Nat} {value : Json}
    (hok : readValue depth text = .ok (value, rest)) : value.NestsWithin depth := by
  induction depth generalizing text rest value with
  | zero =>
      rcases nestsWithin_or_container hok with hscalar | ⟨item, hitem, _⟩
      · exact hscalar 0
      · contradiction
  | succ depth ih =>
      rcases nestsWithin_or_container hok with hscalar | ⟨item, hitem, inside, harray | hobject⟩
      · exact hscalar (depth + 1)
      · cases hitem
        exact nestsWithin_of_readArray (takesFront_readValue depth) ih harray
      · cases hitem
        exact nestsWithin_of_readObject (takesFront_readValue depth)
          (passesBlanks_readValue depth) ih hobject

end JsonExtract.Json.Reader

namespace JsonExtract.Json

theorem parse_eq_ok_iff {text : List Char} {value : Json} :
    parse text = .ok value ↔
      ∃ rest, Reader.readValue nestingLimit text = .ok (value, rest) ∧
        Reader.skipBlanks rest = [] := by
  constructor
  · intro hok
    obtain ⟨⟨value, rest⟩, hvalue, hrest⟩ := Problem.bind_eq_ok_iff.mp hok
    dsimp only at hrest
    split at hrest
    · rename_i hblanks
      cases hrest
      exact ⟨rest, hvalue, hblanks⟩
    · contradiction
  · rintro ⟨rest, hvalue, hblanks⟩
    simp only [parse, hvalue, bind, Except.bind, hblanks]

/-- A text that holds a document is a text that holds it between blanks. -/
theorem exists_between_blanks {text : List Char} {value : Json} (hparse : parse text = .ok value) :
    ∃ before core after, text = before ++ (core ++ after) ∧ Text.IsBlanks before ∧
      Text.IsBlanks after ∧ core ≠ [] ∧ Text.IsTrimmed core ∧ parse core = .ok value := by
  obtain ⟨rest, hvalue, hrest⟩ := parse_eq_ok_iff.mp hparse
  have hstart := Reader.passesBlanks_readValue nestingLimit text
  rw [hvalue] at hstart
  obtain ⟨front, htext, hsolid, hother⟩ := Reader.takesFront_readValue nestingLimit hstart
  have halone : Reader.readValue nestingLimit front = .ok (value, []) := by
    have hread := hother [] (by decide)
    rwa [List.append_nil] at hread
  have hfront : front ≠ [] := by
    rintro rfl
    contradiction
  have hfirst : ∀ c ∈ front.head?, Text.isBlank c = false := by
    intro c hc
    apply Reader.isBlank_of_readWith hvalue
    rw [htext, List.head?_append, Option.mem_def.mp hc]
    rfl
  have hbefore : Reader.AreBlanks (text.takeWhile Reader.isBlank) :=
    fun c hc => Text.mem_takeWhile hc
  have hafter : Reader.AreBlanks rest := List.dropWhile_eq_nil_iff.mp hrest
  refine ⟨text.takeWhile Reader.isBlank, front, rest, ?_, hbefore.isBlanks, hafter.isBlanks,
    hfront, ⟨hfirst, hsolid⟩, parse_eq_ok_iff.mpr ⟨[], halone, rfl⟩⟩
  rw [← htext]
  exact List.takeWhile_append_dropWhile.symm

theorem nestsWithin_of_parse {text : List Char} {value : Json} (hparse : parse text = .ok value) :
    value.NestsWithin nestingLimit := by
  obtain ⟨rest, hvalue, _⟩ := parse_eq_ok_iff.mp hparse
  exact Reader.nestsWithin_of_readValue hvalue

end JsonExtract.Json
