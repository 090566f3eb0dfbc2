import Mathlib.Data.List.Induction
import TcpStats.Lib.CString

/-!
# Printing into memory

`snprintf` on a memory some cells of which have not been written yet. It stores at most
`n - 1` characters and a terminator, and returns how many characters it would have stored
with room enough: a caller that adds up what it returns can come to stand past the end of
its buffer. `snprintf_fits` is what it does when the text fits.
-/

namespace CString

/-- What has been written to each cell, `none` for nothing yet. -/
abbrev Cells := ℕ → Option UInt8

/-- A string constant, with its terminator. -/
def Cells.literal (s : CStr) : Cells := fun i => (s ++ [0])[i]?

/-- The first `len` cells have been written. -/
def Cells.Written (cells : Cells) (len : ℕ) : Prop := ∀ i < len, (cells i).isSome = true

instance (cells : Cells) (len : ℕ) : Decidable (cells.Written len) :=
  inferInstanceAs (Decidable (∀ i < len, (cells i).isSome = true))

/-- `snprintf(cells + pos, n, "%s", text)`: the cells, and the length of the text. -/
def snprintf (cells : Cells) (pos n : ℕ) (text : CStr) : Cells × ℕ :=
  let stored := min text.length (n - 1)
  (fun i =>
    if n = 0 ∨ i < pos ∨ pos + stored < i then cells i
    else if i = pos + stored then some 0
    else text[i - pos]?, text.length)

@[simp] theorem snprintf_length (cells : Cells) (pos n : ℕ) (text : CStr) :
    (snprintf cells pos n text).2 = text.length := rfl

/-- A text that fits is written up to its terminator, after what was there. -/
theorem snprintf_fits {cells : Cells} {pos n : ℕ} {text : CStr} (hfits : text.length < n)
    (h : cells.Written pos) : (snprintf cells pos n text).1.Written (pos + text.length + 1) := by
  intro i hi
  have hstored : min text.length (n - 1) = text.length := by omega
  simp only [snprintf, hstored]
  split_ifs with hold hend
  · exact h i (by omega)
  · rfl
  · rw [List.getElem?_eq_getElem (by omega)]
    rfl

/-- The first cells hold a text. -/
def Cells.Holds (cells : Cells) (text : CStr) : Prop := ∀ i < text.length, cells i = text[i]?

theorem Cells.holds_nil (cells : Cells) : cells.Holds [] := fun i hi => absurd hi (Nat.not_lt_zero i)

/-- A text that fits follows what was there, with a terminator behind it. -/
theorem snprintf_holds {cells : Cells} {done text : CStr} {n : ℕ} (hfits : text.length < n) (h : cells.Holds done) :
    (snprintf cells done.length n text).1.Holds (done ++ text) ∧
      (snprintf cells done.length n text).1 (done ++ text).length = some 0 := by
  have hstored : min text.length (n - 1) = text.length := by omega
  refine ⟨fun i hi => ?_, ?_⟩
  · rw [List.length_append] at hi
    simp only [snprintf, hstored]
    rcases Nat.lt_or_ge i done.length with hlt | hge
    · rw [if_pos (.inr (.inl hlt)), h i hlt, List.getElem?_append_left hlt]
    · rw [if_neg (by omega), if_neg (by omega), List.getElem?_append_right hge]
  · rw [List.length_append]
    simp only [snprintf, hstored]
    rw [if_neg (by omega)]
    simp

/-- What can be read off cells that hold a text. -/
theorem Cells.Holds.filterMap {cells : Cells} {text : CStr} (h : cells.Holds text) :
    (List.range text.length).filterMap cells = text := by
  induction text using List.reverseRecOn with
  | nil => rfl
  | append_singleton text c ih =>
    have hbefore : cells.Holds text := by
      intro i hi
      rw [h i (by rw [List.length_append]; omega), List.getElem?_append_left hi]
    have hlast : cells text.length = some c := by
      rw [h text.length (by simp), List.getElem?_append_right (Nat.le_refl _)]
      simp
    rw [List.length_append, List.length_singleton, List.range_succ, List.filterMap_append, ih hbefore]
    simp [hlast]

end CString
