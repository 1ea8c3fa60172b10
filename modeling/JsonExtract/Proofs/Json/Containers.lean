import JsonExtract.Proofs.Json.Strings

/-!
# What a container takes off a text

Arrays and objects are read alike: entries with commas between them, up to a closing character.
The fuel is worth one entry a unit, so that there always is enough of it.  If the readers of the
entries do not mind what follows, neither does the reader of the container.
-/

namespace JsonExtract.Json.Reader

variable {α : Type} {ends : List Char → Prop} {item : List Char → Except Fault (Split α)}

/-! ## Lists of entries -/

/-- Entries with commas between them, the closing character, and what is behind it. -/
inductive Lists (item : List Char → Except Fault (Split α)) (closing : Char) :
    List Char → List α → List Char → Prop where
  | last {text before rest : List Char} {value : α} (hitem : item text = .ok (value, before))
      (hclosing : skipBlanks before = closing :: rest) : Lists item closing text [value] rest
  | more {text before after next rest : List Char} {value : α} {values : List α} {c : Char}
      (hitem : item text = .ok (value, before)) (hcomma : skipBlanks before = ',' :: after)
      (hnext : skipBlanks after = c :: next) (hopen : c ≠ closing)
      (hmore : Lists item closing (c :: next) values rest) :
      Lists item closing text (value :: values) rest

/-- Each entry has been read somewhere. -/
theorem Lists.exists_of_mem {closing : Char} {text rest : List Char} {values : List α}
    (hlists : Lists item closing text values rest) :
    ∀ value ∈ values, ∃ text rest, item text = .ok (value, rest) := by
  induction hlists with
  | last hitem _ =>
      intro value hvalue
      rw [List.mem_singleton.mp hvalue]
      exact ⟨_, _, hitem⟩
  | more hitem _ _ _ _ ih =>
      intro value hvalue
      rcases List.mem_cons.mp hvalue with rfl | hmem
      · exact ⟨_, _, hitem⟩
      · exact ih value hmem

theorem Lists.exists_front (hitem : TakesFront EndsNumber item) {closing : Char}
    (hsolid : Text.isBlank closing = false) (hends : EndsNumber [closing])
    {text rest : List Char} {values : List α} (hlists : Lists item closing text values rest) :
    ∃ front, text = front ++ rest ∧ front ≠ [] ∧ EndsSolid front ∧
      values.length ≤ front.length ∧
      ∀ other, Lists item closing (front ++ other) values other := by
  induction hlists with
  | @last text before rest value hvalue hclosing =>
      obtain ⟨front, rfl, -, hreads⟩ := hitem hvalue
      obtain ⟨blanks, hblanks, rfl, hskips⟩ := exists_blanks_of_skipBlanks hclosing
      have hend : EndsSolid [closing] := endsSolid_singleton hsolid
      refine ⟨front ++ (blanks ++ [closing]), ?_, ?_, ?_, ?_, ?_⟩
      · simp
      · simp
      · exact (hend.behind (List.cons_ne_nil _ _) blanks).behind (by simp) front
      · simp only [List.length_append, List.length_cons, List.length_nil]
        omega
      · intro other
        rw [List.append_assoc, List.append_assoc]
        exact .last (hreads _ (endsNumber_blanks_cons hblanks hends other)) (hskips other)
  | @more text before after next rest value values c hvalue hcomma hnext hopen _ ih =>
      obtain ⟨front, rfl, -, hreads⟩ := hitem hvalue
      obtain ⟨blanks, hblanks, rfl, hskips⟩ := exists_blanks_of_skipBlanks hcomma
      obtain ⟨gap, -, rfl, hpasses⟩ := exists_blanks_of_skipBlanks hnext
      obtain ⟨back, htext, hne, hback, hlength, hlists⟩ := ih
      obtain ⟨first, back, rfl⟩ := List.exists_cons_of_ne_nil hne
      obtain ⟨rfl, rfl⟩ := List.cons.inj htext
      refine ⟨front ++ (blanks ++ ',' :: (gap ++ c :: back)), ?_, ?_, ?_, ?_, ?_⟩
      · simp
      · simp
      · have hend := (hback.behind hne gap).behind (by simp) [',']
        exact (hend.behind (by simp) blanks).behind (by simp) front
      · simp only [List.length_append, List.length_cons] at hlength ⊢
        omega
      · intro other
        have hcommaEnds : EndsNumber [','] := by decide
        have hmore := Lists.more (hreads _ (endsNumber_blanks_cons hblanks hcommaEnds _))
          (hskips _) (hpasses (back ++ other)) hopen (hlists other)
        simpa using hmore

def afterEntry (closing : Char) (unfinished missing : Fault.Cause) (value : α)
    (more : List Char → Except Fault (Split (List α))) :
    List Char → Except Fault (Split (List α))
  | [] => .error (.before unfinished [])
  | c :: after =>
    if c = closing then .ok ([value], after)
    else if c = ',' then
      match skipBlanks after with
      | [] => .error (.before .unfinishedValue [])
      | d :: next =>
        if d = closing then .error (.within .trailingComma (d :: next))
        else (more (d :: next)).bind fun others => .ok (value :: others.1, others.2)
    else .error (.within missing (c :: after))

/-- A reader of entries, of which the readers of elements and of members are two. -/
def entries (closing : Char) (unfinished missing : Fault.Cause)
    (item : List Char → Except Fault (Split α)) :
    Nat → List Char → Except Fault (Split (List α))
  | 0, text => .error (.before unfinished text)
  | fuel + 1, text =>
    (item text).bind fun entry =>
      afterEntry closing unfinished missing entry.1
        (entries closing unfinished missing item fuel) (skipBlanks entry.2)

theorem elements_succ (item : List Char → Except Fault (Split Json)) (fuel : Nat)
    (text : List Char) :
    elements item (fuel + 1) text =
      (item text).bind fun entry =>
        afterEntry ']' .unfinishedArray .missingArraySeparator entry.1 (elements item fuel)
          (skipBlanks entry.2) := by
  unfold elements
  cases item text with
  | error fault => rfl
  | ok entry =>
      simp only [bind, Except.bind]
      cases skipBlanks entry.2 with
      | nil => rfl
      | cons c after =>
          by_cases hclosing : c = ']'
          · subst c
            rfl
          · by_cases hcomma : c = ','
            · subst c
              simp only [afterEntry, if_neg hclosing, if_true]
              cases skipBlanks after with
              | nil => rfl
              | cons d next =>
                  by_cases hopen : d = ']'
                  · simp [hopen]
                  · simp [hopen]
                    rfl
            · simp [afterEntry, hclosing, hcomma]

def named (item : List Char → Except Fault (Split Json)) :
    List Char → Except Fault (Split (String × Json))
  | '"' :: text => member item text
  | text => .error (.within .unquotedKey text)

theorem members_succ (item : List Char → Except Fault (Split Json)) (fuel : Nat)
    (text : List Char) :
    members item (fuel + 1) text =
      (named item text).bind fun entry =>
        afterEntry '\x7d' .unfinishedObject .missingObjectSeparator entry.1 (members item fuel)
          (skipBlanks entry.2) := by
  unfold members
  split
  · rename_i text
    have hnamed : named item ('"' :: text) = member item text := rfl
    rw [hnamed]
    cases member item text with
    | error fault => rfl
    | ok entry =>
        simp only [bind, Except.bind]
        cases skipBlanks entry.2 with
        | nil => rfl
        | cons c after =>
            by_cases hclosing : c = '\x7d'
            · subst c
              rfl
            · by_cases hcomma : c = ','
              · subst c
                simp only [afterEntry, if_neg hclosing, if_true]
                cases skipBlanks after with
                | nil => rfl
                | cons d next =>
                    by_cases hopen : d = '\x7d'
                    · simp [hopen]
                    · simp [hopen]
                      rfl
              · simp [afterEntry, hclosing, hcomma]
  · rename_i hquote
    rw [named]
    · rfl
    · exact hquote

theorem elements_eq_entries (item : List Char → Except Fault (Split Json)) (fuel : Nat) :
    elements item fuel = entries ']' .unfinishedArray .missingArraySeparator item fuel := by
  induction fuel with
  | zero => rfl
  | succ fuel ih =>
      funext text
      rw [elements_succ, ih, entries]

theorem members_eq_entries (item : List Char → Except Fault (Split Json)) (fuel : Nat) :
    members item fuel =
      entries '\x7d' .unfinishedObject .missingObjectSeparator (named item) fuel := by
  induction fuel with
  | zero => rfl
  | succ fuel ih =>
      funext text
      rw [members_succ, ih, entries]

theorem afterEntry_eq_ok_iff {closing : Char} {unfinished missing : Fault.Cause} {value : α}
    {more : List Char → Except Fault (Split (List α))} {left rest : List Char} {values : List α}
    (hclosing : closing ≠ ',') :
    afterEntry closing unfinished missing value more left = .ok (values, rest) ↔
      (left = closing :: rest ∧ values = [value]) ∨
        ∃ after c next others, left = ',' :: after ∧ skipBlanks after = c :: next ∧ c ≠ closing ∧
          more (c :: next) = .ok (others, rest) ∧ values = value :: others := by
  constructor
  · intro hok
    unfold afterEntry at hok
    split at hok
    · contradiction
    · split at hok
      · rename_i hlast
        cases hok
        exact .inl ⟨by rw [hlast], rfl⟩
      · split at hok
        · rename_i hcomma
          split at hok
          · contradiction
          · rename_i hnext
            split at hok
            · contradiction
            · rename_i hopen
              obtain ⟨others, hmore, hpair⟩ := Problem.bind_eq_ok_iff.mp hok
              cases hpair
              exact .inr ⟨_, _, _, _, by rw [hcomma], hnext, hopen, hmore, rfl⟩
        · contradiction
  · rintro (⟨rfl, rfl⟩ | ⟨after, c, next, others, rfl, hnext, hopen, hmore, rfl⟩)
    · simp [afterEntry]
    · simp [afterEntry, hclosing.symm, hnext, hopen, hmore, Except.bind]

/-- The fuel is worth one entry a unit. -/
theorem entries_eq_ok_iff {closing : Char} {unfinished missing : Fault.Cause} {fuel : Nat}
    {text rest : List Char} {values : List α} (hclosing : closing ≠ ',') :
    entries closing unfinished missing item fuel text = .ok (values, rest) ↔
      Lists item closing text values rest ∧ values.length ≤ fuel := by
  constructor
  · intro hok
    induction fuel generalizing text values with
    | zero => contradiction
    | succ fuel ih =>
        obtain ⟨⟨value, before⟩, hitem, hrest⟩ := Problem.bind_eq_ok_iff.mp hok
        rcases (afterEntry_eq_ok_iff hclosing).mp hrest with
          ⟨hlast, rfl⟩ | ⟨after, c, next, others, hcomma, hnext, hopen, hmore, rfl⟩
        · exact ⟨.last hitem hlast, Nat.succ_pos _⟩
        · obtain ⟨hlists, hfuel⟩ := ih hmore
          exact ⟨.more hitem hcomma hnext hopen hlists, Nat.succ_le_succ hfuel⟩
  · rintro ⟨hlists, hfuel⟩
    induction hlists generalizing fuel with
    | last hitem hlast =>
        cases fuel with
        | zero => contradiction
        | succ fuel =>
            apply Problem.bind_eq_ok_iff.mpr
            exact ⟨_, hitem, (afterEntry_eq_ok_iff hclosing).mpr (.inl ⟨hlast, rfl⟩)⟩
    | more hitem hcomma hnext hopen _ ih =>
        cases fuel with
        | zero => contradiction
        | succ fuel =>
            have hmore := ih (Nat.le_of_succ_le_succ hfuel)
            apply Problem.bind_eq_ok_iff.mpr
            exact ⟨_, hitem, (afterEntry_eq_ok_iff hclosing).mpr
              (.inr ⟨_, _, _, _, hcomma, hnext, hopen, hmore, rfl⟩)⟩

/-! ## Containers -/

/-- The entries of a container, if there are any, the closing character, and what is behind it. -/
inductive Encloses (item : List Char → Except Fault (Split α)) (closing : Char)
    (text : List Char) : List α → List Char → Prop where
  | none {rest : List Char} (hclosing : skipBlanks text = closing :: rest) :
      Encloses item closing text [] rest
  | some {next rest : List Char} {values : List α} {c : Char}
      (hnext : skipBlanks text = c :: next) (hopen : c ≠ closing)
      (hlists : Lists item closing (c :: next) values rest) :
      Encloses item closing text values rest

theorem Encloses.exists_of_mem {closing : Char} {text rest : List Char} {values : List α}
    (hencloses : Encloses item closing text values rest) :
    ∀ value ∈ values, ∃ text rest, item text = .ok (value, rest) := by
  cases hencloses with
  | none hclosing => exact fun _ => nofun
  | some hnext hopen hlists => exact hlists.exists_of_mem

theorem Encloses.exists_front (hitem : TakesFront EndsNumber item) {closing : Char}
    (hsolid : Text.isBlank closing = false) (hends : EndsNumber [closing])
    {text rest : List Char} {values : List α}
    (hencloses : Encloses item closing text values rest) :
    ∃ front, text = front ++ rest ∧ EndsSolid front ∧
      ∀ other, Encloses item closing (front ++ other) values other := by
  cases hencloses with
  | none hclosing =>
      obtain ⟨blanks, -, rfl, hskips⟩ := exists_blanks_of_skipBlanks hclosing
      have hend : EndsSolid [closing] := endsSolid_singleton hsolid
      refine ⟨blanks ++ [closing], by simp, hend.behind (List.cons_ne_nil _ _) blanks, ?_⟩
      intro other
      rw [List.append_assoc]
      exact .none (hskips other)
  | some hnext hopen hlists =>
      obtain ⟨blanks, -, rfl, hskips⟩ := exists_blanks_of_skipBlanks hnext
      obtain ⟨front, htext, hne, hsolid, -, hfront⟩ := hlists.exists_front hitem hsolid hends
      obtain ⟨c, front, rfl⟩ := List.exists_cons_of_ne_nil hne
      obtain ⟨rfl, rfl⟩ := List.cons.inj htext
      refine ⟨blanks ++ _ :: front, by simp, hsolid.behind hne blanks, ?_⟩
      intro other
      have hother := hskips (front ++ other)
      rw [List.append_assoc]
      exact .some hother hopen (hfront other)

/-- A unit of fuel for each character is enough. -/
theorem entries_length_eq_ok_iff (hitem : TakesFront EndsNumber item) {closing : Char}
    {unfinished missing : Fault.Cause} (hsolid : Text.isBlank closing = false)
    (hends : EndsNumber [closing]) (hclosing : closing ≠ ',') {text rest : List Char}
    {values : List α} :
    entries closing unfinished missing item (text.length + 1) text = .ok (values, rest) ↔
      Lists item closing text values rest := by
  rw [entries_eq_ok_iff hclosing, and_iff_left_iff_imp]
  intro hlists
  obtain ⟨front, rfl, -, -, hlength, -⟩ := hlists.exists_front hitem hsolid hends
  rw [List.length_append]
  omega

/-- A reader of containers, of which the readers of arrays and of objects are two. -/
def container (closing : Char) (unfinished missing : Fault.Cause)
    (item : List Char → Except Fault (Split α)) (wrap : List α → Json) (text : List Char) :
    Except Fault (Split Json) :=
  match skipBlanks text with
  | [] => .error (.before unfinished [])
  | c :: next =>
    if c = closing then .ok (wrap [], next)
    else
      (entries closing unfinished missing item ((c :: next).length + 1) (c :: next)).bind
        fun values => .ok (wrap values.1, values.2)

theorem readArray_eq_container (item : List Char → Except Fault (Split Json))
    (text : List Char) :
    readArray item text =
      container ']' .unfinishedArray .missingArraySeparator item .array text := by
  unfold readArray container
  cases skipBlanks text with
  | nil => rfl
  | cons c next =>
      by_cases hclosing : c = ']'
      · simp [hclosing]
      · simp [hclosing, elements_eq_entries]
        rfl

theorem readObject_eq_container (item : List Char → Except Fault (Split Json))
    (text : List Char) :
    readObject item text =
      container '\x7d' .unfinishedObject .missingObjectSeparator (named item)
        (fun values => .object (Keyed.collect values)) text := by
  unfold readObject container
  cases skipBlanks text with
  | nil => rfl
  | cons c next =>
      by_cases hclosing : c = '\x7d'
      · simp [hclosing]
        rfl
      · simp [hclosing, members_eq_entries]
        rfl

theorem container_eq_ok_iff (hitem : TakesFront EndsNumber item) {closing : Char}
    {unfinished missing : Fault.Cause} (hsolid : Text.isBlank closing = false)
    (hends : EndsNumber [closing]) (hclosing : closing ≠ ',') {wrap : List α → Json}
    {text rest : List Char} {value : Json} :
    container closing unfinished missing item wrap text = .ok (value, rest) ↔
      ∃ values, Encloses item closing text values rest ∧ value = wrap values := by
  have hentries {text rest : List Char} {values : List α} :=
    @entries_length_eq_ok_iff _ _ hitem _ unfinished missing hsolid hends hclosing text rest values
  constructor
  · intro hok
    unfold container at hok
    split at hok
    · contradiction
    · rename_i c next hnext
      split at hok
      · rename_i hlast
        cases hok
        exact ⟨[], .none (by rw [hnext, hlast]), rfl⟩
      · rename_i hopen
        obtain ⟨values, hvalues, hpair⟩ := Problem.bind_eq_ok_iff.mp hok
        cases hpair
        exact ⟨_, .some hnext hopen (hentries.mp hvalues), rfl⟩
  · rintro ⟨values, hencloses, rfl⟩
    cases hencloses with
    | none hlast => simp [container, hlast]
    | some hnext hopen hlists =>
        have hvalues := hentries.mpr hlists
        simp only [container, hnext, if_neg hopen, hvalues]
        rfl

theorem takesFront_container (hitem : TakesFront EndsNumber item) {closing : Char}
    {unfinished missing : Fault.Cause} (hsolid : Text.isBlank closing = false)
    (hends : EndsNumber [closing]) (hclosing : closing ≠ ',') (wrap : List α → Json) :
    TakesFront ends (container closing unfinished missing item wrap) := by
  intro text value rest hok
  rw [container_eq_ok_iff hitem hsolid hends hclosing] at hok
  obtain ⟨values, hencloses, rfl⟩ := hok
  obtain ⟨front, rfl, hfront, hother⟩ := hencloses.exists_front hitem hsolid hends
  refine ⟨front, rfl, hfront, ?_⟩
  intro other _
  exact (container_eq_ok_iff hitem hsolid hends hclosing).mpr ⟨values, hother other, rfl⟩

end JsonExtract.Json.Reader
