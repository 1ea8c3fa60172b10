import JsonExtract.Command.Headers
import JsonExtract.Proofs.Keyed
import JsonExtract.Proofs.Problem
import JsonExtract.Proofs.Text.Blank
import JsonExtract.Proofs.Text.Unquoted

/-!
# Headers that arguments give

An argument without a name in front of a first colon is a problem, and the leftmost one is the
problem of the whole list.  Else each argument gives one header, and of the arguments with one
name, which may be written with different blanks, the last has the value.  So headers that are
written as arguments, in whatever order, come back.
-/

namespace JsonExtract.Command

/-- Whether these texts stand on the two sides of the first colon of an argument. -/
def HasSides (argument : String) (before after : List Char) : Prop :=
  argument.toList = before ++ ':' :: after ∧ ':' ∉ before

/-- Whether an argument has no colon, or nothing but blanks in front of its first one. -/
def IsNameless (argument : String) : Prop :=
  ':' ∉ argument.toList ∨ ∃ before after, HasSides argument before after ∧ Text.IsBlanks before

/-- Whether a name and a value are what the two sides of the first colon have between blanks. -/
def Gives (argument name value : String) : Prop :=
  ∃ before after, HasSides argument before after ∧
    Text.Trims before name.toList ∧ Text.Trims after value.toList

/-- Whether a header can stand in one argument as it is. -/
structure IsWritable (entry : String × String) : Prop where
  named : entry.1 ≠ ""
  name : Text.IsTrimmed entry.1.toList
  colonless : ':' ∉ entry.1.toList
  value : Text.IsTrimmed entry.2.toList

def written (entry : String × String) : String :=
  entry.1 ++ ": " ++ entry.2

/-! ## One argument -/

theorem HasSides.unique {argument : String} {before after before' after' : List Char}
    (hsides : HasSides argument before after) (hsides' : HasSides argument before' after') :
    before = before' ∧ after = after' := by
  have hsplit := Text.splitAtChar_eq_some_iff.mpr hsides
  rw [Text.splitAtChar_eq_some_iff.mpr hsides'] at hsplit
  cases hsplit
  exact ⟨rfl, rfl⟩

theorem exists_hasSides {argument : String} (hcolon : ':' ∈ argument.toList) :
    ∃ before after, HasSides argument before after :=
  List.eq_append_cons_of_mem hcolon

theorem HasSides.isNameless_iff {argument : String} {before after : List Char}
    (hsides : HasSides argument before after) : IsNameless argument ↔ Text.IsBlanks before := by
  constructor
  · rintro (hcolon | ⟨before', after', hsides', hblanks⟩)
    · rw [hsides.1] at hcolon
      exact absurd (List.mem_append_right before List.mem_cons_self) hcolon
    · rwa [(hsides.unique hsides').1]
  · intro hblanks
    exact .inr ⟨before, after, hsides, hblanks⟩

theorem HasSides.gives_iff {argument name value : String} {before after : List Char}
    (hsides : HasSides argument before after) :
    Gives argument name value ↔
      name = String.ofList (Text.trim before) ∧ value = String.ofList (Text.trim after) := by
  have hpart {part : String} {side : List Char} :
      Text.Trims side part.toList ↔ part = String.ofList (Text.trim side) := by
    rw [← Text.trim_eq_iff, ← String.toList_inj, String.toList_ofList, eq_comm]
  constructor
  · rintro ⟨before', after', hsides', hname, hvalue⟩
    obtain ⟨rfl, rfl⟩ := hsides.unique hsides'
    exact ⟨hpart.mp hname, hpart.mp hvalue⟩
  · rintro ⟨hname, hvalue⟩
    exact ⟨before, after, hsides, hpart.mpr hname, hpart.mpr hvalue⟩

theorem header_of_hasSides {argument : String} {before after : List Char}
    (hsides : HasSides argument before after) :
    header argument =
      if Text.trim before = [] then .error (.invalidHeader argument)
      else .ok (String.ofList (Text.trim before), String.ofList (Text.trim after)) := by
  rw [header, header?, Text.splitAtChar_eq_some_iff.mpr hsides]
  dsimp only
  by_cases hname : Text.trim before = []
  · rw [if_pos hname, hname]
    rfl
  · rw [if_neg hname, if_neg (by simpa using hname)]

theorem header_of_isNameless {argument : String} (hnameless : IsNameless argument) :
    header argument = .error (.invalidHeader argument) := by
  by_cases hcolon : ':' ∈ argument.toList
  · obtain ⟨before, after, hsides⟩ := exists_hasSides hcolon
    have hblanks : Text.IsBlanks before := hsides.isNameless_iff.mp hnameless
    rw [header_of_hasSides hsides, if_pos (Text.trim_eq_nil_iff.mpr hblanks)]
  · rw [header, header?, Text.splitAtChar_eq_none hcolon]

/-- An argument with a name gives one header. -/
theorem exists_header_of_named {argument : String} (hnamed : ¬ IsNameless argument) :
    ∃ entry, header argument = .ok entry ∧
      ∀ other : String × String, Gives argument other.1 other.2 ↔ entry = other := by
  have hcolon : ':' ∈ argument.toList := by
    by_contra hcolon
    exact hnamed (.inl hcolon)
  obtain ⟨before, after, hsides⟩ := exists_hasSides hcolon
  have hname : Text.trim before ≠ [] := by
    rwa [ne_eq, Text.trim_eq_nil_iff, ← hsides.isNameless_iff]
  refine ⟨(String.ofList (Text.trim before), String.ofList (Text.trim after)), ?_, ?_⟩
  · rw [header_of_hasSides hsides, if_neg hname]
  · intro other
    rw [hsides.gives_iff, Prod.ext_iff, eq_comm (a := other.1), eq_comm (a := other.2)]

theorem ofResult?_header_eq_some_iff {argument : String} {problem : Problem} :
    Problem.ofResult? (header argument) = some problem ↔
      IsNameless argument ∧ problem = .invalidHeader argument := by
  by_cases hnameless : IsNameless argument
  · rw [header_of_isNameless hnameless]
    simp [Problem.ofResult?, hnameless, eq_comm]
  · obtain ⟨entry, hok, -⟩ := exists_header_of_named hnameless
    rw [hok]
    simp [Problem.ofResult?, hnameless]

theorem Gives.unique {argument name value name' value' : String}
    (hgives : Gives argument name value) (hgives' : Gives argument name' value') :
    name = name' ∧ value = value' := by
  obtain ⟨before, after, hsides, hname, hvalue⟩ := hgives
  obtain ⟨hname', hvalue'⟩ := hsides.gives_iff.mp hgives'
  obtain ⟨rfl, rfl⟩ := hsides.gives_iff.mp ⟨before, after, hsides, hname, hvalue⟩
  exact ⟨hname'.symm, hvalue'.symm⟩

theorem header_eq_ok_iff {argument : String} {entry : String × String} :
    header argument = .ok entry ↔ ¬ IsNameless argument ∧ Gives argument entry.1 entry.2 := by
  by_cases hnameless : IsNameless argument
  · rw [header_of_isNameless hnameless]
    simp [hnameless]
  · obtain ⟨first, hok, hgives⟩ := exists_header_of_named hnameless
    rw [hok, hgives, Except.ok.injEq]
    simp [hnameless]

theorem header_written {name value : String} (hentry : IsWritable (name, value)) :
    header (written (name, value)) = .ok (name, value) := by
  have hsides : HasSides (written (name, value)) name.toList (' ' :: value.toList) :=
    ⟨by simp [written], hentry.colonless⟩
  have hname : Text.trim name.toList = name.toList := hentry.name.trim_eq
  have hblank : Text.IsBlanks [' '] := by decide
  have hvalue : Text.trim (' ' :: value.toList) = value.toList :=
    hentry.value.trim_behind hblank
  have hnamed : name.toList ≠ [] := by
    rw [ne_eq, String.toList_eq_nil_iff]
    exact hentry.named
  rw [header_of_hasSides hsides, hname, hvalue, if_neg hnamed, String.ofList_toList,
    String.ofList_toList]

/-! ## All arguments -/

section SideBySide

variable {α β : Type} {R : α → β → Prop}

theorem exists_of_forall₂_right {list : List α} {before after : List β} {b : β}
    (hlist : List.Forall₂ R list (before ++ b :: after)) :
    ∃ front a back, list = front ++ a :: back ∧ R a b ∧ List.Forall₂ R back after := by
  have hback := List.forall₂_drop_append list before (b :: after) hlist
  obtain ⟨a, back, hab, hrest, hdrop⟩ := List.forall₂_cons_right_iff.mp hback
  refine ⟨list.take before.length, a, back, ?_, hab, hrest⟩
  rw [← hdrop, List.take_append_drop]

theorem exists_of_forall₂_left {list : List β} {before after : List α} {a : α}
    (hlist : List.Forall₂ R (before ++ a :: after) list) :
    ∃ front b back, list = front ++ b :: back ∧ R a b ∧ List.Forall₂ R after back := by
  obtain ⟨front, b, back, hsplit, hab, hrest⟩ := exists_of_forall₂_right (R := flip R) hlist.flip
  exact ⟨front, b, back, hsplit, hab, hrest.flip⟩

end SideBySide

/-- Whether an argument gives a name a value and no later one gives the name any. -/
def GivesLast (arguments : List String) (name value : String) : Prop :=
  ∃ before argument after, arguments = before ++ argument :: after ∧
    Gives argument name value ∧ ∀ later ∈ after, ∀ other, ¬ Gives later name other

/-- Whether each argument gives one of some headers, in order. -/
def GivesEach (arguments : List String) (entries : List (String × String)) : Prop :=
  List.Forall₂ (fun argument entry => Gives argument entry.1 entry.2) arguments entries

theorem GivesEach.mem_keys_iff {arguments : List String} {entries : List (String × String)}
    (heach : GivesEach arguments entries) {name : String} :
    name ∈ Keyed.keys entries ↔ ∃ argument ∈ arguments, ∃ value, Gives argument name value := by
  induction heach with
  | nil => simp
  | cons hfirst hrest ih =>
      rw [Keyed.keys_cons, List.mem_cons, ih, List.exists_mem_cons_iff]
      constructor
      · rintro (rfl | hlater)
        · exact .inl ⟨_, hfirst⟩
        · exact .inr hlater
      · rintro (⟨value, hgives⟩ | hlater)
        · exact .inl (hfirst.unique hgives).1.symm
        · exact .inr hlater

theorem GivesEach.get?_reverse_eq_some_iff {arguments : List String}
    {entries : List (String × String)} (heach : GivesEach arguments entries)
    {name value : String} :
    Keyed.get? name entries.reverse = some value ↔ GivesLast arguments name value := by
  rw [Keyed.get?_reverse_eq_some_iff]
  constructor
  · rintro ⟨before, after, rfl, hafter⟩
    obtain ⟨front, argument, back, rfl, hargument, hback⟩ := exists_of_forall₂_right heach
    refine ⟨front, argument, back, rfl, hargument, ?_⟩
    intro later hlater other hother
    exact hafter ((GivesEach.mem_keys_iff hback).mpr ⟨later, hlater, other, hother⟩)
  · rintro ⟨before, argument, after, rfl, hargument, hafter⟩
    obtain ⟨front, entry, back, rfl, hentry, hback⟩ := exists_of_forall₂_left heach
    obtain ⟨rfl, rfl⟩ := hentry.unique hargument
    refine ⟨front, back, rfl, ?_⟩
    rw [GivesEach.mem_keys_iff hback]
    rintro ⟨later, hlater, other, hother⟩
    exact hafter later hlater other hother

/-- The leftmost argument without a name is the problem. -/
theorem headers_eq_error_iff {arguments : List String} {problem : Problem} :
    headers arguments = .error problem ↔
      ∃ before bad after, arguments = before ++ bad :: after ∧
        (∀ argument ∈ before, ¬ IsNameless argument) ∧ IsNameless bad ∧
        problem = .invalidHeader bad := by
  have hnone (argument : String) :
      Problem.ofResult? (header argument) = none ↔ ¬ IsNameless argument := by
    rw [Option.eq_none_iff_forall_ne_some]
    simp [ofResult?_header_eq_some_iff]
  rw [← Problem.ofResult?_eq_some_iff, headers, Problem.ofResult?_map, Problem.ofResult?_mapM,
    List.findSome?_eq_some_iff]
  simp only [ofResult?_header_eq_some_iff, hnone]
  constructor
  · rintro ⟨before, bad, after, hsplit, ⟨hbad, hproblem⟩, hbefore⟩
    exact ⟨before, bad, after, hsplit, hbefore, hbad, hproblem⟩
  · rintro ⟨before, bad, after, hsplit, hbefore, hbad, hproblem⟩
    exact ⟨before, bad, after, hsplit, ⟨hbad, hproblem⟩, hbefore⟩

theorem headers_eq_ok_iff {arguments : List String} {map : KeyedMap String} :
    headers arguments = .ok map ↔
      (∀ argument ∈ arguments, ¬ IsNameless argument) ∧
        ∃ entries, GivesEach arguments entries ∧ KeyedMap.ofList entries = map := by
  rw [headers, Problem.map_eq_ok_iff]
  simp only [Problem.mapM_eq_ok_iff, header_eq_ok_iff, List.forall₂_and_left, GivesEach, and_assoc,
    exists_and_left]

theorem exists_headers_iff {arguments : List String} :
    (∃ map, headers arguments = .ok map) ↔ ∀ argument ∈ arguments, ¬ IsNameless argument := by
  constructor
  · rintro ⟨map, hmap⟩
    exact (headers_eq_ok_iff.mp hmap).1
  · intro hnamed
    cases hheaders : headers arguments with
    | ok map => exact ⟨map, rfl⟩
    | error problem =>
        obtain ⟨before, bad, after, rfl, -, hbad, -⟩ := headers_eq_error_iff.mp hheaders
        exact absurd hbad (hnamed bad (List.mem_append_right before List.mem_cons_self))

theorem get?_headers_eq_some_iff {arguments : List String} {map : KeyedMap String}
    (hheaders : headers arguments = .ok map) {name value : String} :
    map.get? name = some value ↔ GivesLast arguments name value := by
  obtain ⟨-, entries, heach, rfl⟩ := headers_eq_ok_iff.mp hheaders
  have hget : Keyed.get? name (Keyed.collect entries) = Keyed.get? name entries.reverse := by
    have hputs := Keyed.get?_putAll name entries []
    rwa [Keyed.get?, Option.or_none] at hputs
  rw [← heach.get?_reverse_eq_some_iff, ← hget]
  rfl

theorem mem_keys_headers_iff {arguments : List String} {map : KeyedMap String}
    (hheaders : headers arguments = .ok map) {name : String} :
    name ∈ map.keys ↔ ∃ argument ∈ arguments, ∃ value, Gives argument name value := by
  obtain ⟨-, entries, heach, rfl⟩ := headers_eq_ok_iff.mp hheaders
  have hkeys : (KeyedMap.ofList entries).keys = (Keyed.keys entries).eraseDups :=
    Keyed.keys_putAll entries List.nodup_nil
  rw [hkeys, List.mem_eraseDups, heach.mem_keys_iff]

/-- Headers with different names come back from the arguments that they are written as. -/
theorem headers_written {entries : List (String × String)}
    (hdistinct : (Keyed.keys entries).Nodup) (hwritable : ∀ entry ∈ entries, IsWritable entry) :
    headers (entries.map written) = .ok ⟨entries, hdistinct⟩ := by
  have heach : (entries.map written).mapM header = .ok entries := by
    rw [Problem.mapM_eq_ok_iff, List.forall₂_map_left_iff, List.forall₂_same]
    exact fun entry hentry => header_written (hwritable entry hentry)
  rw [headers, heach]
  exact congrArg Except.ok (KeyedMap.ext_entries (Keyed.collect_of_nodup hdistinct))

/-- Arguments are refused for the leftmost one without a name.  Else they give each of their names
the value of the last argument with the name, so that the headers of a map come back from the
arguments that they are written as, in any order. -/
theorem headers_of_arguments :
    (∀ arguments : List String,
      ((¬ ∃ map, headers arguments = .ok map) ↔ ∃ argument ∈ arguments, IsNameless argument) ∧
      (∀ problem, headers arguments = .error problem ↔
        ∃ before bad after, arguments = before ++ bad :: after ∧
          (∀ argument ∈ before, ¬ IsNameless argument) ∧ IsNameless bad ∧
          problem = .invalidHeader bad) ∧
      ∀ map, headers arguments = .ok map →
        (∀ name, name ∈ map.keys ↔ ∃ argument ∈ arguments, ∃ value, Gives argument name value) ∧
        ∀ name value, map.get? name = some value ↔ GivesLast arguments name value) ∧
    ∀ map : KeyedMap String, (∀ entry ∈ map.entries, IsWritable entry) →
      ∀ shuffled : List (String × String), shuffled.Perm map.entries →
        ∃ read, headers (shuffled.map written) = .ok read ∧ read.entries = shuffled ∧
          ∀ name, read.get? name = map.get? name := by
  constructor
  · intro arguments
    refine ⟨?_, fun problem => headers_eq_error_iff, ?_⟩
    · rw [exists_headers_iff]
      simp only [not_forall, not_not, exists_prop]
    · intro map hheaders
      constructor
      · exact fun name => mem_keys_headers_iff hheaders
      · exact fun name value => get?_headers_eq_some_iff hheaders
  · intro map hwritable shuffled hperm
    have hdistinct : (Keyed.keys shuffled).Nodup :=
      (hperm.map Prod.fst).nodup_iff.mpr map.distinct
    have hshuffled : ∀ entry ∈ shuffled, IsWritable entry :=
      fun entry hentry => hwritable entry (hperm.mem_iff.mp hentry)
    refine ⟨⟨shuffled, hdistinct⟩, headers_written hdistinct hshuffled, rfl, ?_⟩
    exact fun name => Keyed.get?_eq_of_perm map.distinct hperm.symm name

example : (headers ["Accept: a:b", " X :y", "Accept :"]).map KeyedMap.entries =
    .ok [("Accept", ""), ("X", "y")] := by decide

end JsonExtract.Command
