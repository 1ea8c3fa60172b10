import JsonExtract.Http.Client

/-!
# Arrivals in time

What is under way either comes while there is time left, and takes its delay off that time, or it
is late.  A client with patience meets a server that takes a call soon enough as it is, and gives
up on any other.
-/

namespace JsonExtract.Http

namespace Arrival

variable {α : Type} {arrival : Arrival α} {what : α} {left rest : Nat}

/-- Whether nothing comes while there is time left. -/
def IsLate (left : Nat) (arrival : Arrival α) : Prop :=
  ∀ delay what, arrival = .after delay what → left ≤ delay

theorem isLate_after_iff {delay : Nat} : (Arrival.after delay what).IsLate left ↔ left ≤ delay := by
  constructor
  · exact fun hlate => hlate delay what rfl
  · rintro hlate _ _ ⟨⟩
    exact hlate

theorem before?_after {delay : Nat} (htime : delay < left) (what : α) :
    (Arrival.after delay what).before? left = some (what, left - delay) := by
  rw [before?, if_pos htime]

theorem before?_eq_some_iff : arrival.before? left = some (what, rest) ↔
    ∃ delay, arrival = .after delay what ∧ delay < left ∧ rest = left - delay := by
  constructor
  · intro hcomes
    cases arrival with
    | never => contradiction
    | after delay other =>
        obtain ⟨htime, hpair⟩ := Option.ite_none_right_eq_some.mp hcomes
        cases hpair
        exact ⟨delay, rfl, htime, rfl⟩
  · rintro ⟨delay, rfl, htime, rfl⟩
    exact before?_after htime what

theorem before?_eq_none_iff : arrival.before? left = none ↔ arrival.IsLate left := by
  cases arrival with
  | never => simp [before?, IsLate]
  | after delay other => simp [before?, isLate_after_iff]

end Arrival

namespace Client

variable {client : Client} {network : Network} {call : Call}

/-- A server that takes a call within the patience of a client is met as it is. -/
theorem dialling_of_lt {connect : Nat} {reply : Reply}
    (hreply : network call = .after connect reply)
    (hpatience : ∀ patience ∈ client.patience, connect < patience) :
    client.dialling network call = .after connect reply := by
  unfold dialling
  cases hclient : client.patience with
  | none => exact hreply
  | some patience =>
      have htime : connect < patience := hpatience patience hclient
      simp only [hreply, Arrival.before?_after htime]

/-- A server that is slower than the patience of a client is met as if it refused the call. -/
theorem dialling_of_isLate {patience : Nat} (hpatience : client.patience = some patience)
    (hlate : (network call).IsLate patience) :
    client.dialling network call = .after patience .refused := by
  simp only [dialling, hpatience, Arrival.before?_eq_none_iff.mpr hlate]

end Client

end JsonExtract.Http
