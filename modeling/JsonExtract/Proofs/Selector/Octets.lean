import JsonExtract.Proofs.Text.Operator
import JsonExtract.Selector.Octets

/-!
# The default stands behind the first operator outside quotes

The octets of the operator that marks a default are found at the least offset at which they
stand outside quotes.  Characters meet there and behind the operator, so the body and the
default can always be cut out, and they are the parts from which the selector is read.
-/

namespace JsonExtract.Selector

open Text (OperatorAt operatorOffset splitUnquoted slice cut?)
open Text.Utf8 (encode)

theorem isOperator_questions : Text.IsOperator ['?', '?'] where
  ne_nil := by simp
  plain := by decide
  low := by simp

section Parts

variable (body default : List Char)

theorem slice_body :
    slice (body ++ (['?', '?'] ++ default)) 0 (encode body).length = .ok body :=
  Text.slice_front body _

theorem slice_default :
    slice (body ++ (['?', '?'] ++ default)) ((encode body).length + 2)
      (encode (body ++ (['?', '?'] ++ default))).length = .ok default := by
  have hlength : (encode (body ++ ['?', '?'])).length = (encode body).length + 2 := by
    rw [Text.Utf8.encode_append, List.length_append]
    rfl
  have hslice := Text.slice_back (body ++ ['?', '?']) default
  rw [hlength, List.append_assoc] at hslice
  exact hslice

theorem length_encode_body_le :
    (encode body).length + 2 ≤ (encode (body ++ (['?', '?'] ++ default))).length := by
  have hoperator : (encode ['?', '?']).length = 2 := rfl
  rw [Text.Utf8.encode_append, Text.Utf8.encode_append, List.length_append, List.length_append,
    hoperator]
  omega

end Parts

theorem scanTrimmed_eq_ok (text : List Char) : scanTrimmed text = .ok (ofTrimmed? text) := by
  rcases Text.operatorOffset_cases isOperator_questions text with
    ⟨body, default, hsplit, hsearch, hfirst⟩ | ⟨hsplit, hsearch, -⟩
  · have htext := hfirst.text_eq
    have hbody := slice_body body default
    have hdefault := slice_default body default
    rw [← htext] at hbody hdefault
    simp only [scanTrimmed, ofTrimmed?, hsearch, hsplit, hbody, hdefault]
    cases Json.parse (Text.trim default) <;> rfl
  · simp only [scanTrimmed, ofTrimmed?, hsearch, hsplit]

theorem scan_eq_ok (argument : String) : scan argument = .ok (ofArgument argument) := by
  simp only [scan, ofArgument, scanTrimmed_eq_ok]
  cases ofTrimmed? (Text.trim argument.toList) <;> rfl

/-- The operator of a default is found at the least offset at which its octets stand outside
quotes, and it is missed only if there is no such offset.  The text is cut there into the parts
on both sides of the operator.  Cutting never fails, and an argument read so gives its
selector. -/
theorem operatorOffset_isLeast (text : String) :
    operatorOffset ['?', '?'] text.toList =
      .ok ((splitUnquoted ['?', '?'] .start text.toList).map fun parts =>
        (encode parts.1).length) ∧
    (∀ offset, operatorOffset ['?', '?'] text.toList = .ok (some offset) ↔
      IsLeast {offset | OperatorAt ['?', '?'] text.toList offset} offset) ∧
    (operatorOffset ['?', '?'] text.toList = .ok none ↔
      ∀ offset, ¬ OperatorAt ['?', '?'] text.toList offset) ∧
    (∀ offset, operatorOffset ['?', '?'] text.toList = .ok (some offset) →
      offset + 2 ≤ (encode text.toList).length ∧
        ∃ body default,
          splitUnquoted ['?', '?'] .start text.toList = some (body, default) ∧
          cut? text.toList offset = some (body, '?' :: '?' :: default) ∧
          slice text.toList 0 offset = .ok body ∧
          slice text.toList (offset + 2) (encode text.toList).length = .ok default) ∧
    scan text = .ok (ofArgument text) := by
  refine ⟨Text.operatorOffset_eq_ok _ text.toList,
    fun offset => Text.operatorOffset_eq_some_iff isOperator_questions,
    Text.operatorOffset_eq_none_iff isOperator_questions, ?_, scan_eq_ok text⟩
  intro offset hoffset
  rcases Text.operatorOffset_cases isOperator_questions text.toList with
    ⟨body, default, hsplit, hsearch, hfirst⟩ | ⟨-, hsearch, -⟩
  · rw [hsearch] at hoffset
    cases hoffset
    rw [hsplit, hfirst.text_eq]
    exact ⟨length_encode_body_le body default, body, default, rfl,
      Text.cut?_append body _, slice_body body default, slice_default body default⟩
  · rw [hsearch] at hoffset
    cases hoffset

def intricate : String :=
  "é\\\".\"a ?? \\\\\" ?? \"b\""

theorem operatorOffset_isLeast_intricate :
    operatorOffset ['?', '?'] intricate.toList = .ok (some 15) ∧
      IsLeast {offset | OperatorAt ['?', '?'] intricate.toList offset} 15 ∧
      ∃ body default,
        slice intricate.toList 0 15 = .ok body ∧
        slice intricate.toList 17 (encode intricate.toList).length = .ok default := by
  have hoffset : operatorOffset ['?', '?'] intricate.toList = .ok (some 15) := by
    decide +kernel
  obtain ⟨-, hleast, -, hparts, -⟩ := operatorOffset_isLeast intricate
  obtain ⟨-, body, default, -, -, hbody, hdefault⟩ := hparts 15 hoffset
  exact ⟨hoffset, (hleast 15).mp hoffset, body, default, hbody, hdefault⟩

end JsonExtract.Selector
