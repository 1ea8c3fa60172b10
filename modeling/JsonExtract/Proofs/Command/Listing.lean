import JsonExtract.Command.Plan
import JsonExtract.Proofs.Text.Quoted

/-!
# Listings that tell paths apart

A line of a listing has no line end in it, since keys are quoted, and tells its step from every
other with the same number.  So the lines are found in what is printed, and the steps in the
lines.  The line for no steps starts as no line with a number does.
-/

namespace JsonExtract.Command

/-! ## One line -/

def initial : Path.Step → Char
  | .key _ => 'k'
  | .index _ => 'i'
  | .wildcard => 'w'

theorem head?_stepText (step : Path.Step) :
    (stepText step).toList.head? = some (initial step) := by
  cases step <;> simp [stepText, initial]

theorem stepText_injective : Function.Injective stepText := by
  intro step other hsame
  have hinitial : initial step = initial other := by
    have hhead := head?_stepText step
    rw [hsame, head?_stepText] at hhead
    exact (Option.some.inj hhead).symm
  cases step with
  | key name =>
      cases other with
      | key name' =>
          have hquote : Text.Quoted.quote name = Text.Quoted.quote name' :=
            (String.append_right_inj _).mp hsame
          rw [Text.Quoted.quote_injective hquote]
      | index position => simp [initial] at hinitial
      | wildcard => simp [initial] at hinitial
  | index position =>
      cases other with
      | key name => simp [initial] at hinitial
      | index position' =>
          have hnumber : toString position = toString position' :=
            (String.append_right_inj _).mp hsame
          rw [Decimal.toString_injective hnumber]
      | wildcard => simp [initial] at hinitial
  | wildcard =>
      cases other with
      | key name => simp [initial] at hinitial
      | index position => simp [initial] at hinitial
      | wildcard => rfl

theorem stepLine_inj {n : Nat} {step other : Path.Step}
    (hsame : stepLine n step = stepLine n other) : step = other :=
  stepText_injective ((String.append_right_inj _).mp hsame)

/-- Whether all characters of a line show. -/
def IsShown (line : String) : Prop :=
  ∀ c ∈ line.toList, Text.isVisible c = true

theorem IsShown.append {front back : String} (hfront : IsShown front) (hback : IsShown back) :
    IsShown (front ++ back) := by
  intro c hc
  rw [String.toList_append, List.mem_append] at hc
  exact hc.elim (hfront c) (hback c)

theorem isShown_of_arePrintable {line : String} (hline : Text.ArePrintable line.toList) :
    IsShown line :=
  fun c hc => (hline c hc).isVisible

theorem isPrintable_of_mem_toDigits {n : Nat} {c : Char} (hc : c ∈ Decimal.toDigits n) :
    Text.IsPrintable c :=
  Text.isPrintable_of_isDigit (Decimal.isDigit_of_mem_toDigits hc)

theorem isShown_ordinal (n : Nat) : IsShown (ordinal n) := by
  have hspace : Text.IsPrintable ' ' := by decide
  apply isShown_of_arePrintable
  intro c hc
  simp only [ordinal, String.toList_ofList, List.mem_append, List.mem_replicate] at hc
  rcases hc with ⟨-, rfl⟩ | hdigit
  · exact hspace
  · exact isPrintable_of_mem_toDigits hdigit

theorem isShown_stepText (step : Path.Step) : IsShown (stepText step) := by
  cases step with
  | key name =>
      have hkind : IsShown "key  " := isShown_of_arePrintable (by decide)
      exact hkind.append fun c => Text.Quoted.isVisible_of_mem_quote
  | index position =>
      have hkind : IsShown "index  " := isShown_of_arePrintable (by decide)
      have hnumber : IsShown (toString position) := by
        apply isShown_of_arePrintable
        intro c hc
        rw [Decimal.toList_toString] at hc
        exact isPrintable_of_mem_toDigits hc
      exact hkind.append hnumber
  | wildcard => exact isShown_of_arePrintable (by decide)

theorem isShown_stepLine (n : Nat) (step : Path.Step) : IsShown (stepLine n step) := by
  have hgap : IsShown "  " := isShown_of_arePrintable (by decide)
  exact ((isShown_ordinal n).append hgap).append (isShown_stepText step)

theorem IsShown.notMem_newline {line : String} (hline : IsShown line) : '\n' ∉ line.toList := by
  intro hmem
  have hvisible := hline '\n' hmem
  have hhidden : Text.isVisible '\n' = false := by decide
  rw [hhidden] at hvisible
  contradiction

/-! ## All lines -/

theorem length_stepLines (n : Nat) (steps : List Path.Step) :
    (stepLines n steps).length = steps.length := by
  induction steps generalizing n with
  | nil => rfl
  | cons step rest ih => rw [stepLines, List.length_cons, List.length_cons, ih]

theorem isShown_of_mem_stepLines {n : Nat} {steps : List Path.Step} {line : String}
    (hline : line ∈ stepLines n steps) : IsShown line := by
  induction steps generalizing n with
  | nil => contradiction
  | cons step rest ih =>
      rcases List.mem_cons.mp hline with rfl | hrest
      · exact isShown_stepLine n step
      · exact ih hrest

theorem stepLines_inj {n : Nat} {steps others : List Path.Step}
    (hsame : stepLines n steps = stepLines n others) : steps = others := by
  induction steps generalizing n others with
  | nil =>
      cases others with
      | nil => rfl
      | cons other others => contradiction
  | cons step steps ih =>
      cases others with
      | nil => contradiction
      | cons other others =>
          obtain ⟨hline, hrest⟩ := List.cons.inj hsame
          rw [stepLine_inj hline, ih hrest]

theorem listing_of_ne_nil {steps : List Path.Step} (hsteps : steps ≠ []) :
    listing steps = stepLines 0 steps := by
  rw [listing, if_neg (by simpa using hsteps)]

theorem isShown_of_mem_listing {steps : List Path.Step} {line : String}
    (hline : line ∈ listing steps) : IsShown line := by
  by_cases hsteps : steps = []
  · subst hsteps
    rw [List.mem_singleton.mp hline]
    exact isShown_of_arePrintable (by decide)
  · rw [listing_of_ne_nil hsteps] at hline
    exact isShown_of_mem_stepLines hline

/-- The line for no steps is no line of a first step, which starts with a blank column. -/
theorem listing_nil_ne_cons (step : Path.Step) (rest : List Path.Step) :
    listing [] ≠ listing (step :: rest) := by
  intro hsame
  rw [listing_of_ne_nil (List.cons_ne_nil step rest), stepLines] at hsame
  have hhead := congrArg (fun line => line.toList.head?) (List.cons.inj hsame).1
  simp [stepLine, ordinal] at hhead

theorem listing_injective : Function.Injective listing := by
  intro steps others hsame
  cases steps with
  | nil =>
      cases others with
      | nil => rfl
      | cons other others => exact absurd hsame (listing_nil_ne_cons other others)
  | cons step steps =>
      cases others with
      | nil => exact absurd hsame.symm (listing_nil_ne_cons step steps)
      | cons other others =>
          rw [listing_of_ne_nil (List.cons_ne_nil _ _),
            listing_of_ne_nil (List.cons_ne_nil _ _)] at hsame
          exact stepLines_inj hsame

/-! ## What is printed -/

def printedLines (lines : List String) : String :=
  String.join (lines.map (· ++ "\n"))

theorem toList_printedLines_cons (line : String) (lines : List String) :
    (printedLines (line :: lines)).toList =
      line.toList ++ '\n' :: (printedLines lines).toList := by
  simp [printedLines]

/-- Lines without line ends are found in what is printed. -/
theorem printedLines_inj {lines others : List String} (hlines : ∀ line ∈ lines, IsShown line)
    (hothers : ∀ line ∈ others, IsShown line) (hsame : printedLines lines = printedLines others) :
    lines = others := by
  induction lines generalizing others with
  | nil =>
      cases others with
      | nil => rfl
      | cons other others =>
          have hchars := congrArg String.toList hsame
          rw [toList_printedLines_cons] at hchars
          simp [printedLines] at hchars
  | cons line lines ih =>
      cases others with
      | nil =>
          have hchars := congrArg String.toList hsame
          rw [toList_printedLines_cons] at hchars
          simp [printedLines] at hchars
      | cons other others =>
          rw [List.forall_mem_cons] at hlines hothers
          have hsplit := congrArg (Text.splitAtChar '\n' ·.toList) hsame
          rw [toList_printedLines_cons, toList_printedLines_cons,
            Text.splitAtChar_append hlines.1.notMem_newline,
            Text.splitAtChar_append hothers.1.notMem_newline, Option.some.injEq,
            Prod.mk.injEq, String.toList_inj, String.toList_inj] at hsplit
          rw [hsplit.1, ih hlines.2 hothers.2 hsplit.2]

/-- What a command may have to do with besides its own arguments. -/
structure Surroundings where
  isCompact : Bool
  lookup : Variables.Lookup
  text : Except Problem String
  client : Http.Client
  network : Http.Network

/-- What a command writes to the standard output. -/
def Surroundings.printed (surroundings : Surroundings) (command : Command) : String :=
  let plan := command.plan surroundings.isCompact surroundings.lookup surroundings.text
  (plan.perform surroundings.client surroundings.network).2.output

theorem printed_tokenize (surroundings : Surroundings) (path : String) :
    surroundings.printed (.tokenize path) = printedLines (listing (Path.tokenize path)) :=
  rfl

/-- Listings of two paths are the same only if the paths have the same steps, and a listing of
steps has one line for each of them, whatever the names of keys are. -/
theorem tokenize_tells_apart (here there : Surroundings) :
    (∀ path other, here.printed (.tokenize path) = there.printed (.tokenize other) ↔
      Path.tokenize path = Path.tokenize other) ∧
    ∀ path, Path.tokenize path ≠ [] →
      ∃ lines, here.printed (.tokenize path) = printedLines lines ∧
        lines.length = (Path.tokenize path).length ∧
        ∀ line ∈ lines, '\n' ∉ line.toList ∧ IsShown line := by
  constructor
  · intro path other
    rw [printed_tokenize, printed_tokenize]
    constructor
    · intro hsame
      have hlisting := printedLines_inj (fun _ => isShown_of_mem_listing)
        (fun _ => isShown_of_mem_listing) hsame
      exact listing_injective hlisting
    · exact fun hsteps => congrArg (fun steps => printedLines (listing steps)) hsteps
  · intro path hsteps
    refine ⟨listing (Path.tokenize path), printed_tokenize here path, ?_, ?_⟩
    · rw [listing_of_ne_nil hsteps, length_stepLines]
    · intro line hline
      have hshown : IsShown line := isShown_of_mem_listing hline
      exact ⟨hshown.notMem_newline, hshown⟩

example : listing [.key "\n", .wildcard] = ["  0  key  \"\\n\"", "  1  wildcard"] := by
  decide

end JsonExtract.Command
