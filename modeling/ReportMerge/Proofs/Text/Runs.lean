/-
Runs of characters of one kind. A run is cut off a text where the text goes on with
something else.
-/

import Mathlib.Data.List.TakeWhile

namespace ReportMerge.Text

def NoneAhead (test : Char → Bool) (rest : List Char) : Prop :=
  ∀ char ∈ rest.head?, test char = false

variable {test : Char → Bool} {run rest : List Char}

theorem takeWhile_append (all : ∀ char ∈ run, test char = true) (ends : NoneAhead test rest) :
    (run ++ rest).takeWhile test = run := by
  rw [List.takeWhile_append_of_pos all]
  cases rest with
  | nil => simp
  | cons char rest => simp [ends char rfl]

theorem dropWhile_append (all : ∀ char ∈ run, test char = true) (ends : NoneAhead test rest) :
    (run ++ rest).dropWhile test = rest := by
  rw [List.dropWhile_append_of_pos all]
  cases rest with
  | nil => rfl
  | cons char rest => simp [ends char rfl]

theorem noneAhead_dropWhile (test : Char → Bool) (text : List Char) :
    NoneAhead test (text.dropWhile test) := by
  intro char ahead
  have stopped := List.head?_dropWhile_not test text
  rw [ahead] at stopped
  exact stopped

end ReportMerge.Text
