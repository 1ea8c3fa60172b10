/-!
# Runs at the front of a text

A run of elements of one class, with an element outside the class or nothing behind it, is what
is taken from the front.
-/

namespace JsonExtract.Text

variable {α : Type} {p : α → Bool} {run rest : List α}

theorem takeWhile_run_append (hrun : ∀ a ∈ run, p a = true)
    (hrest : ∀ a ∈ rest.head?, p a = false) : (run ++ rest).takeWhile p = run := by
  rw [List.takeWhile_append_of_pos hrun]
  cases rest with
  | nil => simp
  | cons a rest => simp [hrest a rfl]

theorem dropWhile_run_append (hrun : ∀ a ∈ run, p a = true)
    (hrest : ∀ a ∈ rest.head?, p a = false) : (run ++ rest).dropWhile p = rest := by
  rw [List.dropWhile_append_of_pos hrun]
  cases rest with
  | nil => simp
  | cons a rest => simp [hrest a rfl]

theorem mem_takeWhile {list : List α} {a : α} (ha : a ∈ list.takeWhile p) : p a = true :=
  List.all_eq_true.mp List.all_takeWhile a ha

theorem of_mem_head?_dropWhile {list : List α} {a : α} (ha : a ∈ (list.dropWhile p).head?) :
    p a = false := by
  have hhead := List.head?_dropWhile_not p list
  rw [Option.mem_def] at ha
  rw [ha] at hhead
  exact hhead

end JsonExtract.Text
