import Mathlib.Data.List.TakeWhile
import JsonExtract.Proofs.Text.Runs
import JsonExtract.Text.Unquoted

/-!
# Operators in a text without quotes

In a text without quotes and backslashes an operator is found at its first occurrence.  An
operator stands on one side of each character that it does not have itself.
-/

namespace JsonExtract.Text

variable {operator front after text : List Char}

/-! ## Occurrences -/

theorem prefix_of_prefix_append_cons {c : Char} (hc : c ∉ operator)
    (hstarts : operator <+: front ++ c :: after) : operator <+: front := by
  induction operator generalizing front with
  | nil => exact List.nil_prefix
  | cons first rest ih =>
      rw [List.mem_cons, not_or] at hc
      cases front with
      | nil =>
          rw [List.nil_append, List.cons_prefix_cons] at hstarts
          exact absurd hstarts.1.symm hc.1
      | cons other front =>
          rw [List.cons_append, List.cons_prefix_cons] at hstarts
          rw [List.cons_prefix_cons]
          exact ⟨hstarts.1, ih hc.2 hstarts.2⟩

theorem infix_of_infix_append_cons {c : Char} (hc : c ∉ operator)
    (hoccurs : operator <:+: front ++ c :: after) : operator <:+: front ∨ operator <:+: after := by
  induction front with
  | nil =>
      rw [List.nil_append, List.infix_cons_iff] at hoccurs
      rcases hoccurs with hstarts | hafter
      · have hnil : operator <+: [] := prefix_of_prefix_append_cons hc hstarts
        exact .inl hnil.isInfix
      · exact .inr hafter
  | cons first front ih =>
      rw [List.cons_append, List.infix_cons_iff] at hoccurs
      rw [List.infix_cons_iff]
      rcases hoccurs with hstarts | hrest
      · have hfront : operator <+: first :: front := prefix_of_prefix_append_cons hc hstarts
        exact .inl (.inl hfront)
      · exact (ih hrest).imp .inr id

/-- An operator stands on one side of a separator. -/
theorem infix_of_infix_separated {separator : List Char} (hne : separator ≠ [])
    (hseparator : ∀ c ∈ separator, c ∉ operator)
    (hoccurs : operator <:+: front ++ (separator ++ after)) :
    operator <:+: front ∨ operator <:+: after := by
  induction separator generalizing front with
  | nil => exact absurd rfl hne
  | cons c rest ih =>
      have hc : c ∉ operator := hseparator c List.mem_cons_self
      rcases infix_of_infix_append_cons hc hoccurs with hfront | hrest
      · exact .inl hfront
      · cases rest with
        | nil => exact .inr hrest
        | cons other rest =>
            have hmore : operator <:+: [] ∨ operator <:+: after := by
              apply ih (List.cons_ne_nil other rest)
              · exact fun d hd => hseparator d (List.mem_cons_of_mem c hd)
              · exact hrest
            exact hmore.imp (·.trans List.nil_infix) id

/-! ## Texts without quotes -/

def IsPlain (text : List Char) : Prop :=
  ∀ c ∈ text, c ≠ '"' ∧ c ≠ '\\'

instance : DecidablePred IsPlain :=
  List.decidableBAll fun c => c ≠ '"' ∧ c ≠ '\\'

theorem IsPlain.append (hfront : IsPlain front) (hafter : IsPlain after) :
    IsPlain (front ++ after) :=
  List.forall_mem_append.mpr ⟨hfront, hafter⟩

theorem QuoteState.next_plain {state : QuoteState} {c : Char} (hstate : state.escaped = false)
    (hquote : c ≠ '"') (hescape : c ≠ '\\') : state.next c = state := by
  simp [QuoteState.next, hstate, hquote, hescape]

theorem QuoteState.next_start {c : Char} (hquote : c ≠ '"') (hescape : c ≠ '\\') :
    QuoteState.start.next c = .start :=
  QuoteState.next_plain rfl hquote hescape

/-! ## One step of a split -/

section Step

variable {state : QuoteState}

theorem splitUnquoted_operator (hoperator : IsPlain operator) (hne : operator ≠ [])
    (hopen : state.isOpen = true) (after : List Char) :
    splitUnquoted operator state (operator ++ after) = some ([], after) := by
  obtain ⟨c, rest, rfl⟩ := List.exists_cons_of_ne_nil hne
  obtain ⟨⟨hquote, hescape⟩, -⟩ := List.forall_mem_cons.mp hoperator
  have hstarts : (c :: rest).isPrefixOf (c :: rest ++ after) = true :=
    List.isPrefixOf_iff_prefix.mpr (List.prefix_append _ _)
  have hdrop : (c :: rest ++ after).drop (c :: rest).length = after := List.drop_left
  rw [List.cons_append] at hstarts hdrop ⊢
  rw [splitUnquoted, if_pos (by simp [hopen, hquote, hescape, hstarts]), hdrop]

theorem splitUnquoted_skip {c : Char} {rest : List Char}
    (hstarts : state.isOpen = true → ¬ operator <+: c :: rest) :
    splitUnquoted operator state (c :: rest) =
      (splitUnquoted operator (state.next c) rest).map fun split => (c :: split.1, split.2) := by
  rw [splitUnquoted, if_neg]
  simp only [Bool.and_eq_true, List.isPrefixOf_iff_prefix]
  intro hhere
  exact hstarts hhere.1.1.1 hhere.2

end Step

/-! ## Splits of plain texts -/

theorem splitUnquoted_eq_none (hplain : IsPlain text) (habsent : ¬ operator <:+: text) :
    splitUnquoted operator .start text = none := by
  induction text with
  | nil => rfl
  | cons c rest ih =>
      obtain ⟨⟨hquote, hescape⟩, hrest⟩ := List.forall_mem_cons.mp hplain
      rw [List.infix_cons_iff, not_or] at habsent
      rw [splitUnquoted_skip fun _ => habsent.1, QuoteState.next_start hquote hescape,
        ih hrest habsent.2]
      rfl

theorem splitUnquoted_gap {gap : List Char} (hgap : IsPlain gap)
    (hdisjoint : ∀ c ∈ gap, c ∉ operator) (hoperator : IsPlain operator) (hne : operator ≠ [])
    (after : List Char) :
    splitUnquoted operator .start (gap ++ (operator ++ after)) = some (gap, after) := by
  induction gap with
  | nil => exact splitUnquoted_operator hoperator hne rfl after
  | cons c gap ih =>
      obtain ⟨⟨hquote, hescape⟩, hplain⟩ := List.forall_mem_cons.mp hgap
      obtain ⟨hc, hothers⟩ := List.forall_mem_cons.mp hdisjoint
      have hstarts : ¬ operator <+: c :: (gap ++ (operator ++ after)) := by
        intro hstart
        have hnil : operator <+: [] := prefix_of_prefix_append_cons hc hstart
        exact hne (List.prefix_nil.mp hnil)
      rw [List.cons_append, splitUnquoted_skip fun _ => hstarts,
        QuoteState.next_start hquote hescape, ih hplain hothers]
      rfl

/-- A text that is free of an operator is split at the operator behind a gap. -/
theorem splitUnquoted_append {body gap : List Char} (hbody : IsPlain body)
    (habsent : ¬ operator <:+: body) (hopen : gap ≠ []) (hgap : IsPlain gap)
    (hdisjoint : ∀ c ∈ gap, c ∉ operator) (hoperator : IsPlain operator) (hne : operator ≠ [])
    (after : List Char) :
    splitUnquoted operator .start (body ++ (gap ++ (operator ++ after))) =
      some (body ++ gap, after) := by
  induction body with
  | nil => exact splitUnquoted_gap hgap hdisjoint hoperator hne after
  | cons c body ih =>
      obtain ⟨⟨hquote, hescape⟩, hplain⟩ := List.forall_mem_cons.mp hbody
      rw [List.infix_cons_iff, not_or] at habsent
      have hstarts : ¬ operator <+: c :: (body ++ (gap ++ (operator ++ after))) := by
        intro hstart
        obtain ⟨g, more, rfl⟩ := List.exists_cons_of_ne_nil hopen
        have hg : g ∉ operator := hdisjoint g List.mem_cons_self
        have hfront : operator <+: c :: body := prefix_of_prefix_append_cons hg hstart
        exact habsent.1 hfront
      rw [List.cons_append, splitUnquoted_skip fun _ => hstarts,
        QuoteState.next_start hquote hescape, ih hplain habsent.2]
      rfl

/-! ## Separators of one character -/

theorem splitAtChar_append {separator : Char} (hfront : separator ∉ front) (after : List Char) :
    splitAtChar separator (front ++ separator :: after) = some (front, after) := by
  have hrun : ∀ c ∈ front, (c ≠ separator : Bool) = true := by
    intro c hc
    simp only [decide_eq_true_eq]
    rintro rfl
    exact hfront hc
  have hrest : ∀ c ∈ (separator :: after).head?, (c ≠ separator : Bool) = false := by
    intro c hc
    cases hc
    simp
  rw [splitAtChar, dropWhile_run_append hrun hrest, takeWhile_run_append hrun hrest]

theorem splitAtChar_eq_none {separator : Char} (habsent : separator ∉ text) :
    splitAtChar separator text = none := by
  have hrun : text.dropWhile (· ≠ separator) = [] := by
    rw [List.dropWhile_eq_nil_iff]
    intro c hc
    simp only [decide_eq_true_eq]
    rintro rfl
    exact habsent hc
  rw [splitAtChar, hrun]

theorem splitAtChar_eq_some_iff {separator : Char} :
    splitAtChar separator text = some (front, after) ↔
      text = front ++ separator :: after ∧ separator ∉ front := by
  constructor
  · intro hsplit
    by_cases hmem : separator ∈ text
    · obtain ⟨before, rest, rfl, hbefore⟩ := List.eq_append_cons_of_mem hmem
      rw [splitAtChar_append hbefore] at hsplit
      cases hsplit
      exact ⟨rfl, hbefore⟩
    · rw [splitAtChar_eq_none hmem] at hsplit
      contradiction
  · rintro ⟨rfl, hfront⟩
    exact splitAtChar_append hfront after

end JsonExtract.Text
