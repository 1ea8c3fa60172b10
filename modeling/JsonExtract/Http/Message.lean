import JsonExtract.Http.Chunks
import JsonExtract.Http.Network
import JsonExtract.Http.Status
import JsonExtract.Text.Utf8

/-!
# Responses as octets

A response comes as a head and a body.  The head is a line with the status and a line for each
field, and an empty line ends it.  The fields tell how far the body goes.  Heads that only
announce another one are passed over.
-/

namespace JsonExtract.Http.Message

open Chunks (lineFeed carriageReturn isBlank)

def octetsOf (text : String) : List UInt8 :=
  Text.Utf8.encode text.toList

/-! ## Lines -/

def splitLine? (octets : List UInt8) : Option (List UInt8 × List UInt8) :=
  match octets.dropWhile (· ≠ lineFeed) with
  | [] => none
  | _ :: rest =>
    let line := octets.takeWhile (· ≠ lineFeed)
    some (if line.getLast? = some carriageReturn then line.dropLast else line, rest)

theorem splitLine?_length_lt {octets line rest : List UInt8}
    (h : splitLine? octets = some (line, rest)) : rest.length < octets.length := by
  unfold splitLine? at h
  split at h
  · simp at h
  · rename_i hdrop
    simp only [Option.some.injEq, Prod.mk.injEq] at h
    obtain ⟨-, rfl⟩ := h
    have hle := (List.dropWhile_sublist (p := (· ≠ lineFeed)) (l := octets)).length_le
    rw [hdrop] at hle
    exact Nat.lt_of_succ_le hle

/-! ## Fields -/

/-- A field, its name in small letters and its value as octets. -/
structure RawField where
  name : String
  value : List UInt8
deriving DecidableEq, Repr

def isVisible (octet : UInt8) : Bool :=
  octet == 9 || (32 ≤ octet && octet ≠ 127)

def trim (octets : List UInt8) : List UInt8 :=
  ((octets.dropWhile isBlank).reverse.dropWhile isBlank).reverse

def characters (octets : List UInt8) : List Char :=
  octets.map fun octet => Char.ofNat octet.toNat

def RawField.ofLine? (line : List UInt8) : Option RawField :=
  let colon : UInt8 := 58
  let name := characters (line.takeWhile (· ≠ colon))
  match line.dropWhile (· ≠ colon) with
  | [] => none
  | _ :: value =>
    if Field.isToken name && value.all isVisible then
      some ⟨String.ofList (name.map Char.toLower), trim value⟩
    else none

/-- The fields in the lines up to an empty one, and the octets behind it. -/
def readFields (octets : List UInt8) : Option (List RawField × List UInt8) :=
  match _h : splitLine? octets with
  | none => none
  | some ([], rest) => some ([], rest)
  | some (line, rest) => do
    let field ← RawField.ofLine? line
    let (fields, rest) ← readFields rest
    return (field :: fields, rest)
termination_by octets.length
decreasing_by exact splitLine?_length_lt _h

theorem readFields_length_lt {octets rest : List UInt8} {fields : List RawField}
    (h : readFields octets = some (fields, rest)) : rest.length < octets.length := by
  induction hn : octets.length using Nat.strongRecOn generalizing octets fields rest with
  | _ n ih =>
    rw [readFields] at h
    split at h
    · simp at h
    · rename_i hline
      simp only [Option.some.injEq, Prod.mk.injEq] at h
      obtain ⟨-, rfl⟩ := h
      exact hn ▸ splitLine?_length_lt hline
    · rename_i line after _ hline
      have hlt := hn ▸ splitLine?_length_lt hline
      simp only [Option.bind_eq_bind, Option.pure_def, Option.bind_eq_some_iff,
        Option.some.injEq, Prod.mk.injEq] at h
      obtain ⟨field, -, ⟨fields', rest'⟩, hrest, -, rfl⟩ := h
      exact Nat.lt_trans (ih _ hlt hrest rfl) hlt

/-! ## Heads -/

structure Head where
  /-- Whether the message is of the kind that had no chunks yet. -/
  isOld : Bool
  status : Nat
  fields : List RawField
deriving DecidableEq, Repr

def skipEmptyLines : List UInt8 → List UInt8
  | 13 :: 10 :: rest => skipEmptyLines rest
  | 10 :: rest => skipEmptyLines rest
  | octets => octets

theorem skipEmptyLines_length_le (octets : List UInt8) :
    (skipEmptyLines octets).length ≤ octets.length := by
  induction octets using skipEmptyLines.induct with
  | case1 rest ih =>
    rw [skipEmptyLines]
    exact Nat.le_trans ih (by simp only [List.length_cons]; omega)
  | case2 rest ih =>
    rw [skipEmptyLines]
    exact Nat.le_trans ih (by simp)
  | case3 octets _ _ =>
    rw [skipEmptyLines] <;> simp_all

def statusLine? (line : List UInt8) : Option (Bool × Nat) := do
  let stem := octetsOf "HTTP/1."
  if !stem.isPrefixOf line then none
  match characters (line.drop stem.length) with
  | version :: ' ' :: a :: b :: c :: reason =>
    let digits := [a, b, c]
    let isStatus :=
      digits.all Char.isDigit && a ≠ '0' && (reason.isEmpty || reason.head? = some ' ')
    if (version = '0' || version = '1') && isStatus && line.all isVisible then
      return (version = '0', digits.foldl (fun n d => 10 * n + (d.toNat - '0'.toNat)) 0)
    else none
  | _ => none

def fieldLimit : Nat := 100

def readHead (octets : List UInt8) : Option (Head × List UInt8) :=
  match splitLine? (skipEmptyLines octets) with
  | none => none
  | some (line, rest) =>
    match statusLine? line, readFields rest with
    | some (isOld, status), some (fields, rest) =>
      if fieldLimit < fields.length then none else some (⟨isOld, status, fields⟩, rest)
    | _, _ => none

theorem readHead_length_lt {octets rest : List UInt8} {head : Head}
    (h : readHead octets = some (head, rest)) : rest.length < octets.length := by
  unfold readHead at h
  split at h
  · simp at h
  · rename_i line after hline
    split at h
    · rename_i hfields
      split at h
      · simp at h
      · simp only [Option.some.injEq, Prod.mk.injEq] at h
        obtain ⟨-, rfl⟩ := h
        exact Nat.lt_of_lt_of_le
          (Nat.lt_trans (readFields_length_lt hfields) (splitLine?_length_lt hline))
          (skipEmptyLines_length_le octets)
    · simp at h

def Head.values (head : Head) (name : String) : List (List UInt8) :=
  (head.fields.filter (·.name == name)).map (·.value)

/-! ## How far bodies go -/

inductive Extent where
  | length (n : Nat)
  | chunks
  /-- As far as the message. -/
  | all
deriving DecidableEq, Repr

def parts (value : List UInt8) : List (List UInt8) :=
  (value.splitOn 44).map trim

def lengthOf? (digits : List UInt8) : Option Nat :=
  let isDigit (octet : UInt8) : Bool := 48 ≤ octet && octet ≤ 57
  if digits.isEmpty || !digits.all isDigit then none
  else
    let n := digits.foldl (fun n digit => 10 * n + (digit.toNat - 48)) 0
    if n < Chunks.lengthLimit - 2 then some n else none

/-- The one length that all the values tell. -/
def commonLength? (values : List (List UInt8)) : Option Nat := do
  match ← (values.flatMap parts).mapM lengthOf? with
  | [] => none
  | n :: others => if others.all (· == n) then return n else none

/-- Whether the last of the encodings that the values name is that of chunks. -/
def endsInChunks (values : List (List UInt8)) : Bool :=
  ((values.getLast?.map parts).bind List.getLast?).any fun coding =>
    String.ofList ((characters coding).map Char.toLower) == "chunked"

/-- How far the body behind a head goes, unless the fields contradict each other. -/
def Head.extent? (head : Head) : Option Extent :=
  let codings := head.values "transfer-encoding"
  let lengths := head.values "content-length"
  if !Status.hasBody head.status then some (.length 0)
  else if !codings.isEmpty then
    if head.isOld then none else some (if endsInChunks codings then .chunks else .all)
  else if !lengths.isEmpty then (commonLength? lengths).map .length
  else some .all

/-- Whether the lines behind the last chunk are fields.  A line ends with a carriage return and
a line feed, and a line feed alone does not start another field. -/
def isTrailer (octets : List UInt8) : Bool :=
  let lines := octets.count carriageReturn - 1
  lines < fieldLimit && (readFields octets).any fun found => found.1.length ≤ lines

def chunkedBody? (octets : List UInt8) : Option (List UInt8) := do
  let trace ← Chunks.trace .start octets
  if trace.isModest && isTrailer trace.trailer then return trace.body else none

def Extent.body? (octets : List UInt8) : Extent → Option (List UInt8)
  | .length n => if n ≤ octets.length then some (octets.take n) else none
  | .chunks => chunkedBody? octets
  | .all => some octets

/-! ## The whole -/

def RawField.field? (field : RawField) : Option Field :=
  match Text.Utf8.decode field.value with
  | .ok value => some ⟨field.name, String.ofList value⟩
  | .error _ => none

def Head.response? (head : Head) (octets : List UInt8) : Option Response :=
  head.extent?.map fun extent =>
    ⟨head.status, head.fields.filterMap RawField.field?, .after 0 (extent.body? octets)⟩

/-- The response that the octets are, if they go as far as the end of its head. -/
def response? (octets : List UInt8) : Option Response :=
  match _h : readHead octets with
  | none => none
  | some (head, rest) =>
    if Status.isInformational head.status then response? rest else head.response? rest
termination_by octets.length
decreasing_by exact readHead_length_lt _h

/-- The reply of a server that sends octets at once and hangs up. -/
def reply (octets : List UInt8) : Reply :=
  match response? octets with
  | some response => .taken (.after 0 (.response response))
  | none => .hangUp

end JsonExtract.Http.Message
