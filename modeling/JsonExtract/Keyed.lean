/-!
# Keyed entries in order of first insertion

Object members, picked values and request headers are all lists of keyed
entries in which a key is found at its first occurrence.  Writing to a key that
is present replaces the value in place, and writing to a new key appends it.
`KeyedMap` bundles such a list with the fact that its keys are distinct.
-/

namespace JsonExtract

namespace Keyed

variable {α : Type}

/-- The value stored under the first entry with this key. -/
def get? (key : String) : List (String × α) → Option α
  | [] => none
  | (k, v) :: rest => if k = key then some v else get? key rest

/-- Replaces the value of the first entry with this key, or appends a new entry. -/
def put (key : String) (value : α) : List (String × α) → List (String × α)
  | [] => [(key, value)]
  | (k, v) :: rest => if k = key then (k, value) :: rest else (k, v) :: put key value rest

def keys (entries : List (String × α)) : List String :=
  entries.map Prod.fst

/-- The entries that remain after writing each of them in turn to an empty list. -/
def collect (entries : List (String × α)) : List (String × α) :=
  entries.foldl (fun done entry => put entry.1 entry.2 done) []

@[simp] theorem get?_put_self (key : String) (value : α) (entries : List (String × α)) :
    get? key (put key value entries) = some value := by
  induction entries with
  | nil => simp [put, get?]
  | cons entry rest ih =>
    by_cases h : entry.1 = key
    · simp [put, get?, h]
    · simp [put, get?, h, ih]

theorem get?_put_of_ne {key other : String} (hne : other ≠ key) (value : α)
    (entries : List (String × α)) :
    get? other (put key value entries) = get? other entries := by
  induction entries with
  | nil => simp [put, get?, Ne.symm hne]
  | cons entry rest ih =>
    by_cases h : entry.1 = key
    · simp [put, get?, h, Ne.symm hne]
    · by_cases h' : entry.1 = other
      · simp [put, get?, h', hne]
      · simp [put, get?, h, h', ih]

/-- Writing keeps every key in place and appends the key only when it is new. -/
theorem keys_put (key : String) (value : α) (entries : List (String × α)) :
    keys (put key value entries) =
      if key ∈ keys entries then keys entries else keys entries ++ [key] := by
  induction entries with
  | nil => simp [put, keys]
  | cons entry rest ih =>
    by_cases h : entry.1 = key
    · simp [put, keys, h]
    · simp only [keys] at ih
      by_cases hk : key ∈ List.map Prod.fst rest
      · simp [put, h, keys, ih, hk]
      · simp [put, h, keys, ih, hk, Ne.symm h]

theorem nodup_keys_put {entries : List (String × α)} (h : (keys entries).Nodup)
    (key : String) (value : α) : (keys (put key value entries)).Nodup := by
  rw [keys_put]
  split
  · exact h
  · rename_i hnew
    rw [List.nodup_append]
    refine ⟨h, by simp, ?_⟩
    intro a ha b hb
    simp only [List.mem_singleton] at hb
    subst hb
    intro hab
    exact hnew (hab ▸ ha)

theorem nodup_keys_foldl_put (entries done : List (String × α)) (h : (keys done).Nodup) :
    (keys (entries.foldl (fun done entry => put entry.1 entry.2 done) done)).Nodup := by
  induction entries generalizing done with
  | nil => exact h
  | cons entry rest ih => exact ih _ (nodup_keys_put h entry.1 entry.2)

theorem nodup_keys_collect (entries : List (String × α)) : (keys (collect entries)).Nodup :=
  nodup_keys_foldl_put entries [] (by simp [keys])

/-- Changes every value, the first failure ending the work. -/
def traverse {β ε : Type} (f : α → Except ε β) :
    List (String × α) → Except ε (List (String × β))
  | [] => .ok []
  | (key, value) :: rest => do
    let changed ← f value
    let others ← traverse f rest
    .ok ((key, changed) :: others)

theorem keys_traverse {β ε : Type} {f : α → Except ε β} {entries : List (String × α)}
    {changed : List (String × β)} (h : traverse f entries = .ok changed) :
    keys changed = keys entries := by
  induction entries generalizing changed with
  | nil =>
    cases h
    rfl
  | cons entry rest ih =>
    simp only [traverse] at h
    cases hf : f entry.2 with
    | error e => simp [hf, bind, Except.bind] at h
    | ok value =>
      cases hr : traverse f rest with
      | error e => simp [hf, hr, bind, Except.bind] at h
      | ok others =>
        simp only [hf, hr, bind, Except.bind, Except.ok.injEq] at h
        subst h
        have := ih hr
        simp only [keys] at this
        simp [keys, this]

theorem get?_isSome_iff {key : String} {entries : List (String × α)} :
    (get? key entries).isSome ↔ key ∈ keys entries := by
  induction entries with
  | nil => simp [get?, keys]
  | cons entry rest ih =>
    by_cases h : entry.1 = key
    · simp [get?, keys, h]
    · simp only [keys] at ih
      simp [get?, keys, h, Ne.symm h, ih]

end Keyed

/-- Keyed entries with pairwise distinct keys, in order of first insertion. -/
structure KeyedMap (α : Type) where
  entries : List (String × α)
  distinct : (Keyed.keys entries).Nodup

namespace KeyedMap

variable {α : Type}

def empty : KeyedMap α := ⟨[], by simp [Keyed.keys]⟩

instance : Inhabited (KeyedMap α) := ⟨empty⟩

/-- Insert, or overwrite in place. -/
def set (map : KeyedMap α) (key : String) (value : α) : KeyedMap α :=
  ⟨Keyed.put key value map.entries, Keyed.nodup_keys_put map.distinct key value⟩

def get? (map : KeyedMap α) (key : String) : Option α :=
  Keyed.get? key map.entries

def keys (map : KeyedMap α) : List String :=
  Keyed.keys map.entries

/-- Entries written one after the other, a repeated key keeping its first place and last value. -/
def ofList (entries : List (String × α)) : KeyedMap α :=
  ⟨Keyed.collect entries, Keyed.nodup_keys_collect entries⟩

def traverse {β ε : Type} (f : α → Except ε β) (map : KeyedMap α) : Except ε (KeyedMap β) :=
  match h : Keyed.traverse f map.entries with
  | .ok entries => .ok ⟨entries, by rw [Keyed.keys_traverse h]; exact map.distinct⟩
  | .error e => .error e

theorem ext_entries {a b : KeyedMap α} (h : a.entries = b.entries) : a = b := by
  cases a
  cases b
  cases h
  rfl

@[simp] theorem get?_empty (key : String) : (empty : KeyedMap α).get? key = none := rfl

@[simp] theorem get?_set_self (map : KeyedMap α) (key : String) (value : α) :
    (map.set key value).get? key = some value :=
  Keyed.get?_put_self key value map.entries

theorem get?_set_of_ne (map : KeyedMap α) {key other : String} (hne : other ≠ key) (value : α) :
    (map.set key value).get? other = map.get? other :=
  Keyed.get?_put_of_ne hne value map.entries

theorem keys_set (map : KeyedMap α) (key : String) (value : α) :
    (map.set key value).keys = if key ∈ map.keys then map.keys else map.keys ++ [key] :=
  Keyed.keys_put key value map.entries

end KeyedMap

end JsonExtract
