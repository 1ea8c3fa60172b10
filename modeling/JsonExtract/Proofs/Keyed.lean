import JsonExtract.Keyed

/-!
# Entries written in a row

Writing entries one after the other keeps each key at the place of its first occurrence and
leaves it with the value of its last.  Entries with distinct keys are determined by their keys
in order and by what is found under each of them, so that laws about writing are proved by
comparing keys and values.  The main one says that writing a list of entries has the same
effect as writing what the list leaves behind.
-/

namespace JsonExtract

namespace Keyed

variable {α : Type}

/-- The entries after writing others on top of them, one after the other. -/
def putAll (entries done : List (String × α)) : List (String × α) :=
  entries.foldl (fun done entry => put entry.1 entry.2 done) done

@[simp] theorem putAll_nil (done : List (String × α)) : putAll [] done = done := rfl

@[simp] theorem putAll_cons (entry : String × α) (rest done : List (String × α)) :
    putAll (entry :: rest) done = putAll rest (put entry.1 entry.2 done) := rfl

theorem putAll_append (first second done : List (String × α)) :
    putAll (first ++ second) done = putAll second (putAll first done) := by
  simp [putAll, List.foldl_append]

@[simp] theorem keys_nil : keys ([] : List (String × α)) = [] := rfl

@[simp] theorem keys_cons (entry : String × α) (rest : List (String × α)) :
    keys (entry :: rest) = entry.1 :: keys rest := rfl

@[simp] theorem keys_append (first second : List (String × α)) :
    keys (first ++ second) = keys first ++ keys second := by
  simp [keys]

/-! ## Looking up -/

theorem get?_eq_none_iff {key : String} {entries : List (String × α)} :
    get? key entries = none ↔ key ∉ keys entries := by
  rw [← get?_isSome_iff, Option.not_isSome_iff_eq_none]

theorem get?_append (key : String) (first second : List (String × α)) :
    get? key (first ++ second) = (get? key first).or (get? key second) := by
  induction first with
  | nil => simp [get?]
  | cons entry rest ih =>
      by_cases h : entry.1 = key
      · simp [get?, h]
      · simp [get?, h, ih]

theorem get?_map_values {β : Type} (f : α → β) (key : String) (entries : List (String × α)) :
    get? key (entries.map fun entry => (entry.1, f entry.2)) = (get? key entries).map f := by
  induction entries with
  | nil => rfl
  | cons entry rest ih =>
      by_cases h : entry.1 = key
      · simp [get?, h]
      · simp [get?, h, ih]

theorem get?_eq_some_iff {key : String} {value : α} {entries : List (String × α)} :
    get? key entries = some value ↔
      ∃ before after,
        entries = before ++ (key, value) :: after ∧ key ∉ keys before := by
  constructor
  · intro hfound
    induction entries with
    | nil => simp [get?] at hfound
    | cons entry rest ih =>
        by_cases h : entry.1 = key
        · have hvalue : entry.2 = value := by
            simpa [get?, h] using hfound
          exact ⟨[], rest, by simp [← h, ← hvalue], by simp⟩
        · have hrest : get? key rest = some value := by
            simpa [get?, h] using hfound
          obtain ⟨before, after, rfl, hbefore⟩ := ih hrest
          exact ⟨entry :: before, after, rfl, by simp [hbefore, Ne.symm h]⟩
  · rintro ⟨before, after, rfl, hbefore⟩
    have hnone : get? key before = none := get?_eq_none_iff.mpr hbefore
    simp [get?_append, hnone, get?]

theorem get?_reverse_eq_some_iff {key : String} {value : α} {entries : List (String × α)} :
    get? key entries.reverse = some value ↔
      ∃ before after,
        entries = before ++ (key, value) :: after ∧ key ∉ keys after := by
  rw [get?_eq_some_iff]
  constructor
  · rintro ⟨front, back, hsplit, hfront⟩
    refine ⟨back.reverse, front.reverse, ?_, by simpa [keys] using hfront⟩
    simpa using congrArg List.reverse hsplit
  · rintro ⟨before, after, rfl, hafter⟩
    exact ⟨after.reverse, before.reverse, by simp, by simpa [keys] using hafter⟩

theorem get?_reverse_of_nodup {entries : List (String × α)}
    (hnodup : (keys entries).Nodup) (key : String) :
    get? key entries.reverse = get? key entries := by
  induction entries with
  | nil => rfl
  | cons entry rest ih =>
      rw [keys_cons, List.nodup_cons] at hnodup
      rw [List.reverse_cons, get?_append, ih hnodup.2]
      by_cases h : entry.1 = key
      · have hnone : get? key rest = none :=
          get?_eq_none_iff.mpr (h ▸ hnodup.1)
        simp [get?, h, hnone]
      · simp [get?, h]

theorem mem_iff_get?_eq_some {entries : List (String × α)} (hnodup : (keys entries).Nodup)
    {key : String} {value : α} :
    (key, value) ∈ entries ↔ get? key entries = some value := by
  rw [get?_eq_some_iff]
  constructor
  · intro hmem
    obtain ⟨before, after, rfl⟩ := List.append_of_mem hmem
    rw [keys_append, keys_cons, List.nodup_append] at hnodup
    refine ⟨before, after, rfl, ?_⟩
    intro hbefore
    exact hnodup.2.2 key hbefore key List.mem_cons_self rfl
  · rintro ⟨before, after, rfl, _⟩
    exact List.mem_append_right before List.mem_cons_self

theorem get?_eq_of_perm {entries shuffled : List (String × α)}
    (hdistinct : (keys entries).Nodup) (hperm : entries.Perm shuffled) (key : String) :
    get? key shuffled = get? key entries := by
  have hshuffled : (keys shuffled).Nodup := (hperm.map Prod.fst).nodup_iff.mp hdistinct
  apply Option.ext
  intro value
  rw [← mem_iff_get?_eq_some hshuffled, ← mem_iff_get?_eq_some hdistinct, hperm.mem_iff]

theorem keys_filter_of_nodup {entries : List (String × α)} (hnodup : (keys entries).Nodup)
    (p : α → Bool) :
    keys (entries.filter fun entry => p entry.2) =
      (keys entries).filter fun key => (get? key entries).any p := by
  have hvalue : ∀ entry ∈ entries, p entry.2 = (get? entry.1 entries).any p := by
    intro entry hentry
    have hfound : get? entry.1 entries = some entry.2 := (mem_iff_get?_eq_some hnodup).mp hentry
    rw [hfound, Option.any_some]
  rw [List.filter_congr hvalue]
  unfold keys
  rw [List.filter_map]
  rfl

/-- Entries with distinct keys are determined by their keys in order and by what is found
under each key. -/
theorem ext_of_nodup {a b : List (String × α)}
    (hnodup : (keys a).Nodup) (hkeys : keys a = keys b)
    (hget : ∀ key, get? key a = get? key b) : a = b := by
  induction a generalizing b with
  | nil =>
      cases b with
      | nil => rfl
      | cons entry rest => simp at hkeys
  | cons entry rest ih =>
      cases b with
      | nil => simp at hkeys
      | cons other others =>
          simp only [keys_cons, List.cons.injEq] at hkeys
          obtain ⟨hkey, hrest⟩ := hkeys
          rw [keys_cons, List.nodup_cons] at hnodup
          have hvalue : entry.2 = other.2 := by
            simpa [get?, hkey] using hget entry.1
          have hsame : rest = others := by
            apply ih hnodup.2 hrest
            intro key
            by_cases h : entry.1 = key
            · have hleft : get? key rest = none :=
                get?_eq_none_iff.mpr (h ▸ hnodup.1)
              have hright : get? key others = none := by
                rw [get?_eq_none_iff, ← hrest, ← h]
                exact hnodup.1
              rw [hleft, hright]
            · simpa [get?, h, hkey ▸ h] using hget key
          rw [hsame, Prod.ext hkey hvalue]

/-! ## Writing -/

theorem mem_of_mem_put {key : String} {value : α} {entries : List (String × α)}
    {entry : String × α} (hentry : entry ∈ put key value entries) :
    entry = (key, value) ∨ entry ∈ entries := by
  induction entries with
  | nil => exact .inl (List.mem_singleton.mp hentry)
  | cons other rest ih =>
      rw [put] at hentry
      split at hentry
      · rename_i hkey
        rcases List.mem_cons.mp hentry with hfirst | hrest
        · exact .inl (by rw [hfirst, hkey])
        · exact .inr (List.mem_cons_of_mem other hrest)
      · rcases List.mem_cons.mp hentry with hfirst | hrest
        · exact .inr (by rw [hfirst]; exact List.mem_cons_self)
        · exact (ih hrest).imp id (List.mem_cons_of_mem other)

theorem mem_of_mem_putAll {entries done : List (String × α)} {entry : String × α}
    (hentry : entry ∈ putAll entries done) : entry ∈ entries ∨ entry ∈ done := by
  induction entries generalizing done with
  | nil => exact .inr hentry
  | cons first rest ih =>
      rw [putAll_cons] at hentry
      rcases ih hentry with hrest | hput
      · exact .inl (List.mem_cons_of_mem first hrest)
      · rcases mem_of_mem_put hput with rfl | hdone
        · exact .inl List.mem_cons_self
        · exact .inr hdone

theorem mem_of_mem_collect {entries : List (String × α)} {entry : String × α}
    (hentry : entry ∈ collect entries) : entry ∈ entries :=
  (mem_of_mem_putAll hentry).resolve_right List.not_mem_nil

theorem put_of_notMem {key : String} {entries : List (String × α)}
    (hnew : key ∉ keys entries) (value : α) :
    put key value entries = entries ++ [(key, value)] := by
  induction entries with
  | nil => rfl
  | cons entry rest ih =>
      simp only [keys_cons, List.mem_cons, not_or] at hnew
      simp [put, Ne.symm hnew.1, ih hnew.2]

theorem nodup_keys_putAll (entries : List (String × α)) {done : List (String × α)}
    (hdone : (keys done).Nodup) : (keys (putAll entries done)).Nodup :=
  nodup_keys_foldl_put entries done hdone

/-- Entries with new and distinct keys are appended as they are. -/
theorem putAll_of_nodup {entries done : List (String × α)}
    (hnodup : (keys (done ++ entries)).Nodup) : putAll entries done = done ++ entries := by
  induction entries generalizing done with
  | nil => rw [putAll_nil, List.append_nil]
  | cons entry rest ih =>
      have hnew : entry.1 ∉ keys done := by
        rw [keys_append, keys_cons, List.nodup_append] at hnodup
        intro hmem
        exact hnodup.2.2 entry.1 hmem entry.1 List.mem_cons_self rfl
      rw [List.append_cons] at hnodup ⊢
      rw [putAll_cons, put_of_notMem hnew, ih hnodup]

theorem collect_of_nodup {entries : List (String × α)} (hnodup : (keys entries).Nodup) :
    collect entries = entries :=
  putAll_of_nodup hnodup

/-- The last write to a key decides, and what was there before counts for the other keys. -/
theorem get?_putAll (key : String) (entries done : List (String × α)) :
    get? key (putAll entries done) = (get? key entries.reverse).or (get? key done) := by
  induction entries generalizing done with
  | nil => simp [get?]
  | cons entry rest ih =>
      rw [putAll_cons, ih, List.reverse_cons, get?_append, Option.or_assoc]
      by_cases h : entry.1 = key
      · subst h
        simp [get?]
      · rw [get?_put_of_ne (Ne.symm h)]
        simp [get?, h]

private theorem eraseDups_of_nodup {names : List String} (hnodup : names.Nodup) :
    names.eraseDups = names := by
  induction names with
  | nil => rfl
  | cons name rest ih =>
      rw [List.nodup_cons] at hnodup
      have hfilter : (rest.filter fun other => !other == name) = rest := by
        rw [List.filter_eq_self]
        intro other hother
        have hne : other ≠ name := fun h => hnodup.1 (h ▸ hother)
        simp [hne]
      rw [List.eraseDups_cons, hfilter, ih hnodup.2]

private theorem eraseDups_append_cons_of_mem {names : List String} {name : String}
    (hmem : name ∈ names) (rest : List String) :
    (names ++ name :: rest).eraseDups = (names ++ rest).eraseDups := by
  rw [List.eraseDups_append, List.eraseDups_append, List.cons_removeAll]
  simp [hmem]

theorem keys_putAll (entries : List (String × α)) {done : List (String × α)}
    (hdone : (keys done).Nodup) :
    keys (putAll entries done) = (keys done ++ keys entries).eraseDups := by
  induction entries generalizing done with
  | nil => simp [eraseDups_of_nodup hdone]
  | cons entry rest ih =>
      rw [putAll_cons, ih (nodup_keys_put hdone entry.1 entry.2), keys_put, keys_cons]
      by_cases h : entry.1 ∈ keys done
      · rw [if_pos h, eraseDups_append_cons_of_mem h]
      · rw [if_neg h, List.append_assoc, List.singleton_append]

theorem putAll_put {key : String} {value : α} {entries done : List (String × α)}
    (hentries : (keys entries).Nodup) (hdone : (keys done).Nodup) :
    putAll (put key value entries) done = put key value (putAll entries done) := by
  by_cases hmem : key ∈ keys entries
  · have hsame : keys (put key value entries) = keys entries := by
      rw [keys_put, if_pos hmem]
    have hwritten : key ∈ keys (putAll entries done) := by
      rw [keys_putAll entries hdone, List.mem_eraseDups]
      exact List.mem_append_right _ hmem
    apply ext_of_nodup (nodup_keys_putAll _ hdone)
    · rw [keys_put, if_pos hwritten, keys_putAll _ hdone, keys_putAll _ hdone, hsame]
    · intro other
      rw [get?_putAll, get?_reverse_of_nodup (nodup_keys_put hentries key value)]
      by_cases h : other = key
      · subst h
        simp
      · rw [get?_put_of_ne h, get?_put_of_ne h, get?_putAll, get?_reverse_of_nodup hentries]
  · rw [put_of_notMem hmem, putAll_append]
    rfl

/-- Writing what other writes leave behind is writing once more what was written. -/
theorem putAll_putAll (entries : List (String × α)) {first done : List (String × α)}
    (hfirst : (keys first).Nodup) (hdone : (keys done).Nodup) :
    putAll (putAll entries first) done = putAll entries (putAll first done) := by
  induction entries generalizing first with
  | nil => rfl
  | cons entry rest ih =>
      rw [putAll_cons, putAll_cons, ih (nodup_keys_put hfirst entry.1 entry.2),
        putAll_put hfirst hdone]

/-! ## Entries that may have no value -/

def present (entries : List (String × Option α)) : List (String × α) :=
  entries.filterMap fun entry => entry.2.map (entry.1, ·)

theorem keys_present (entries : List (String × Option α)) :
    keys (present entries) = keys (entries.filter fun entry => entry.2.isSome) := by
  induction entries with
  | nil => rfl
  | cons entry rest ih =>
      obtain ⟨key, slot⟩ := entry
      cases slot with
      | none => simpa [present] using ih
      | some value => simpa [present] using ih

theorem get?_present {entries : List (String × Option α)} (hnodup : (keys entries).Nodup)
    (key : String) : get? key (present entries) = (get? key entries).join := by
  induction entries with
  | nil => rfl
  | cons entry rest ih =>
      obtain ⟨name, slot⟩ := entry
      rw [keys_cons, List.nodup_cons] at hnodup
      have hrest : get? key (present rest) = (get? key rest).join := ih hnodup.2
      by_cases h : name = key
      · subst h
        have hnone : get? name rest = none := get?_eq_none_iff.mpr hnodup.1
        rw [hnone] at hrest
        cases slot with
        | none => simpa [present, get?] using hrest
        | some value => simp [present, get?]
      · cases slot with
        | none => simpa [present, get?, h] using hrest
        | some value => simpa [present, get?, h] using hrest

/-! ## Changing every value -/

theorem traverse_congr {β ε : Type} {f g : α → Except ε β} {entries : List (String × α)}
    (hsame : ∀ entry ∈ entries, f entry.2 = g entry.2) :
    traverse f entries = traverse g entries := by
  induction entries with
  | nil => rfl
  | cons entry rest ih =>
      rw [List.forall_mem_cons] at hsame
      rw [traverse, traverse, hsame.1, ih hsame.2]

theorem get?_traverse {β ε : Type} {f : α → Except ε β} {entries : List (String × α)}
    {changed : List (String × β)} (hchanged : traverse f entries = .ok changed) {key : String}
    {value : α} (hvalue : get? key entries = some value) :
    ∃ image, f value = .ok image ∧ get? key changed = some image := by
  induction entries generalizing changed with
  | nil => contradiction
  | cons entry rest ih =>
      rw [traverse] at hchanged
      cases hfirst : f entry.2 with
      | error fault => simp [hfirst, bind, Except.bind] at hchanged
      | ok image =>
          cases hrest : traverse f rest with
          | error fault => simp [hfirst, hrest, bind, Except.bind] at hchanged
          | ok others =>
              simp only [hfirst, hrest, bind, Except.bind, Except.ok.injEq] at hchanged
              subst hchanged
              by_cases h : entry.1 = key
              · obtain rfl : entry.2 = value := by simpa [get?, h] using hvalue
                exact ⟨image, hfirst, by simp [get?, h]⟩
              · simp only [get?, h, if_false] at hvalue ⊢
                exact ih hrest hvalue

end Keyed

namespace KeyedMap

variable {α : Type}

/-- The map after writing entries to it, one after the other. -/
def setAll (map : KeyedMap α) (entries : List (String × α)) : KeyedMap α :=
  entries.foldl (fun map entry => map.set entry.1 entry.2) map

theorem setAll_append (map : KeyedMap α) (first second : List (String × α)) :
    map.setAll (first ++ second) = (map.setAll first).setAll second := by
  simp [setAll, List.foldl_append]

theorem entries_setAll (map : KeyedMap α) (entries : List (String × α)) :
    (map.setAll entries).entries = Keyed.putAll entries map.entries := by
  induction entries generalizing map with
  | nil => rfl
  | cons entry rest ih => exact ih (map.set entry.1 entry.2)

theorem keys_setAll (map : KeyedMap α) (entries : List (String × α)) :
    (map.setAll entries).keys = (map.keys ++ Keyed.keys entries).eraseDups := by
  unfold KeyedMap.keys
  rw [entries_setAll, Keyed.keys_putAll entries map.distinct]

theorem get?_setAll (map : KeyedMap α) (entries : List (String × α)) (key : String) :
    (map.setAll entries).get? key = (Keyed.get? key entries.reverse).or (map.get? key) := by
  unfold KeyedMap.get?
  rw [entries_setAll, Keyed.get?_putAll]

theorem setAll_entries_setAll_empty (map : KeyedMap α) (entries : List (String × α)) :
    map.setAll (empty.setAll entries).entries = map.setAll entries := by
  apply ext_entries
  rw [entries_setAll, entries_setAll, entries_setAll,
    Keyed.putAll_putAll entries empty.distinct map.distinct]
  rfl

theorem map_entries_traverse {β ε : Type} (f : α → Except ε β) (map : KeyedMap α) :
    (map.traverse f).map entries = Keyed.traverse f map.entries := by
  unfold traverse
  split
  · rename_i hchanged
    exact hchanged.symm
  · rename_i hfault
    exact hfault.symm

theorem eq_of_map_entries_eq {ε : Type} {a b : Except ε (KeyedMap α)}
    (h : a.map entries = b.map entries) : a = b := by
  cases a with
  | error fault =>
      cases b with
      | error other => exact congrArg Except.error (Except.error.inj h)
      | ok map => contradiction
  | ok map =>
      cases b with
      | error fault => contradiction
      | ok other => exact congrArg Except.ok (ext_entries (Except.ok.inj h))

theorem keys_traverse {β ε : Type} {f : α → Except ε β} {map : KeyedMap α} {changed : KeyedMap β}
    (hchanged : map.traverse f = .ok changed) : changed.keys = map.keys := by
  have hentries := map_entries_traverse f map
  rw [hchanged] at hentries
  exact Keyed.keys_traverse hentries.symm

theorem get?_traverse {β ε : Type} {f : α → Except ε β} {map : KeyedMap α} {changed : KeyedMap β}
    (hchanged : map.traverse f = .ok changed) {key : String} {value : α}
    (hvalue : map.get? key = some value) :
    ∃ image, f value = .ok image ∧ changed.get? key = some image := by
  have hentries := map_entries_traverse f map
  rw [hchanged] at hentries
  exact Keyed.get?_traverse hentries.symm hvalue

theorem traverse_congr {β ε : Type} {f g : α → Except ε β} {map : KeyedMap α}
    (hsame : ∀ entry ∈ map.entries, f entry.2 = g entry.2) :
    map.traverse f = map.traverse g := by
  apply eq_of_map_entries_eq
  rw [map_entries_traverse, map_entries_traverse, Keyed.traverse_congr hsame]

end KeyedMap

end JsonExtract
