import Mathlib.Data.Finset.Card
import Mathlib.Data.List.Perm.Basic
import JsonExtract.Path.Resolve
import JsonExtract.Picked
import JsonExtract.Proofs.Keyed

/-!
# Picked values as a map

Whatever has been picked for which keys, one after the other, there is one entry for each key,
at the place where the key was first picked, and it holds what was picked last.  All ways to
look at picked values follow the entries.  Each key either is the name of a member of the
document or is among the keys for which nothing was picked, never both.
-/

namespace JsonExtract.Picked

/-! ## Entries -/

theorem mem_entries_iff {picked : Picked} {key : String} {slot : Option Json} :
    (key, slot) ∈ picked.entries ↔ picked.entry? key = some slot :=
  Keyed.mem_iff_get?_eq_some picked.distinct

theorem contains_iff {picked : Picked} {key : String} :
    picked.contains key = true ↔ key ∈ picked.keys :=
  Keyed.get?_isSome_iff

theorem value?_eq_join (picked : Picked) (key : String) :
    picked.value? key = (picked.entry? key).join := by
  unfold value?
  cases picked.entry? key <;> rfl

theorem value?_eq_some_iff {picked : Picked} {key : String} {value : Json} :
    picked.value? key = some value ↔ picked.entry? key = some (some value) := by
  rw [value?_eq_join, Option.join_eq_some_iff]

theorem size_eq_length_keys (picked : Picked) : picked.size = picked.keys.length := by
  simp [size, KeyedMap.keys, Keyed.keys]

theorem isEmpty_iff {picked : Picked} : picked.isEmpty = true ↔ picked.size = 0 := by
  simp [isEmpty, size]

/-! ## The document and what is missing from it -/

def members (picked : Picked) : List (String × Json) :=
  Keyed.present picked.entries

theorem toJson_eq_object (picked : Picked) : picked.toJson = .object picked.members := rfl

theorem get?_members (picked : Picked) (key : String) :
    Keyed.get? key picked.members = picked.value? key := by
  rw [value?_eq_join]
  exact Keyed.get?_present picked.distinct key

theorem keys_filter_entries (picked : Picked) (p : Option Json → Bool) :
    Keyed.keys (picked.entries.filter fun entry => p entry.2) =
      picked.keys.filter fun key => (picked.entry? key).any p :=
  Keyed.keys_filter_of_nodup picked.distinct p

theorem keys_members (picked : Picked) :
    Keyed.keys picked.members = picked.keys.filter fun key => (picked.value? key).isSome := by
  rw [members, Keyed.keys_present, keys_filter_entries]
  congr 1
  funext key
  rw [value?_eq_join]
  cases picked.entry? key <;> rfl

theorem unresolved_eq_keys (picked : Picked) :
    picked.unresolved = Keyed.keys (picked.entries.filter fun entry => entry.2.isNone) := by
  unfold unresolved
  induction picked.entries with
  | nil => rfl
  | cons entry rest ih =>
      obtain ⟨key, slot⟩ := entry
      cases slot <;> simpa using ih

theorem nodup_keys_members (picked : Picked) : (Keyed.keys picked.members).Nodup := by
  rw [keys_members]
  exact List.Nodup.filter _ picked.distinct

theorem mem_members_iff {picked : Picked} {key : String} {value : Json} :
    (key, value) ∈ picked.members ↔ picked.entry? key = some (some value) := by
  rw [Keyed.mem_iff_get?_eq_some picked.nodup_keys_members, get?_members, value?_eq_some_iff]

theorem mem_unresolved_iff {picked : Picked} {key : String} :
    key ∈ picked.unresolved ↔ picked.entry? key = some none := by
  rw [← mem_entries_iff, unresolved_eq_keys]
  simp [Keyed.keys]

theorem unresolved_eq_filter (picked : Picked) :
    picked.unresolved = picked.keys.filter fun key => !(picked.value? key).isSome := by
  rw [unresolved_eq_keys, keys_filter_entries]
  apply List.filter_congr
  intro key hkey
  have hfound : (picked.entry? key).isSome = true := contains_iff.mpr hkey
  rw [value?_eq_join]
  cases hentry : picked.entry? key with
  | none => simp [hentry] at hfound
  | some slot => cases slot <;> rfl

theorem keys_members_append_unresolved_perm (picked : Picked) :
    (Keyed.keys picked.members ++ picked.unresolved).Perm picked.keys := by
  rw [keys_members, unresolved_eq_filter]
  exact List.filter_append_perm _ picked.keys

/-! ## After any calls -/

theorem entry?_setAll_empty_eq_some_iff {calls : List (String × Option Json)} {key : String}
    {slot : Option Json} :
    entry? (KeyedMap.setAll empty calls) key = some slot ↔
      ∃ before after, calls = before ++ (key, slot) :: after ∧ key ∉ Keyed.keys after := by
  unfold entry?
  rw [KeyedMap.get?_setAll, ← Keyed.get?_reverse_eq_some_iff]
  simp [empty]

theorem keys_setAll_empty (calls : List (String × Option Json)) :
    (KeyedMap.setAll empty calls).keys = (Keyed.keys calls).eraseDups := by
  rw [KeyedMap.keys_setAll]
  rfl

/-- Picked values after any calls, each of which picks a value or nothing for a key.  There is one
entry for each key, in the order of the first calls, with what the last call for it picked.  All
ways to look at the values agree with the entries, and the document has a member for exactly each
key with a value. -/
theorem faithful_setAll_empty (calls : List (String × Option Json)) :
    let picked : Picked := KeyedMap.setAll empty calls
    picked.keys.Nodup ∧ picked.keys = (Keyed.keys calls).eraseDups ∧
    (∀ key slot, (key, slot) ∈ picked.entries ↔
      ∃ before after, calls = before ++ (key, slot) :: after ∧ key ∉ Keyed.keys after) ∧
    (∀ key slot, picked.entry? key = some slot ↔ (key, slot) ∈ picked.entries) ∧
    (∀ key, picked.contains key = true ↔ key ∈ Keyed.keys calls) ∧
    (∀ key value, picked.value? key = some value ↔ picked.entry? key = some (some value)) ∧
    picked.size = (Keyed.keys calls).toFinset.card ∧
    (picked.isEmpty = true ↔ picked.size = 0) ∧
    ∃ members, picked.toJson = .object members ∧
      Keyed.keys members = picked.keys.filter (fun key => (picked.value? key).isSome) ∧
      (∀ key, picked.toJson.child? key = picked.value? key) ∧
      Keyed.collect members = members := by
  intro picked
  have hkeys : picked.keys = (Keyed.keys calls).eraseDups := keys_setAll_empty calls
  have hmem : ∀ key, key ∈ picked.keys ↔ key ∈ Keyed.keys calls := by
    intro key
    rw [hkeys, List.mem_eraseDups]
  have hsize : picked.size = (Keyed.keys calls).toFinset.card := by
    rw [size_eq_length_keys, ← List.toFinset_card_of_nodup (l := picked.keys) picked.distinct]
    congr 1
    ext key
    simp [hmem]
  have hnodup : (Keyed.keys picked.members).Nodup := picked.nodup_keys_members
  refine ⟨picked.distinct, hkeys, ?_, ?_, ?_, ?_, hsize, isEmpty_iff, ?_⟩
  · intro key slot
    rw [mem_entries_iff, entry?_setAll_empty_eq_some_iff]
  · intro key slot
    exact mem_entries_iff.symm
  · intro key
    rw [contains_iff, hmem]
  · intro key value
    exact value?_eq_some_iff
  · exact ⟨picked.members, picked.toJson_eq_object, picked.keys_members, picked.get?_members,
      Keyed.collect_of_nodup hnodup⟩

end JsonExtract.Picked
