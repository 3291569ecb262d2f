import Mathlib.Data.List.DropRight
import PackageSignature.Text.Blank

/-! What trimming leaves. A text is blanks, then what has no blank at either end, then blanks; and
it is so in one way only, which is the one that trimming finds. -/

namespace PackageSignature.Text

structure Bare (text : List Char) : Prop where
  front : ∀ c ∈ text.head?, isBlank c = false
  back : ∀ c ∈ text.getLast?, isBlank c = false

def Trims (text trimmed : List Char) : Prop :=
  ∃ before after, text = before ++ trimmed ++ after ∧ (∀ c ∈ before, isBlank c = true) ∧
    (∀ c ∈ after, isBlank c = true) ∧ Bare trimmed

theorem dropWhile_of_front {drops : Char → Bool} {text : List Char}
    (kept : ∀ c ∈ text.head?, drops c = false) : text.dropWhile drops = text := by
  cases text with
  | nil => rfl
  | cons c rest => exact List.dropWhile_cons_of_neg (by rw [kept c rfl]; exact Bool.false_ne_true)

theorem front_dropWhile (drops : Char → Bool) (text : List Char) :
    ∀ c ∈ (text.dropWhile drops).head?, drops c = false := by
  intro c first
  have stopped := List.head?_dropWhile_not drops text
  rw [first] at stopped
  exact stopped

theorem dropEndWhile_eq_rdropWhile (drops : Char → Bool) (text : List Char) :
    dropEndWhile drops text = text.rdropWhile drops := rfl

/-- Of what is cut off at the front nothing is seen at the back, unless nothing is left. -/
theorem getLast?_dropWhile {drops : Char → Bool} {text : List Char}
    (left : text.dropWhile drops ≠ []) :
    (text.dropWhile drops).getLast? = text.getLast? := by
  have whole : text.takeWhile drops ++ text.dropWhile drops = text :=
    List.takeWhile_append_dropWhile
  rw [← whole, List.getLast?_append_of_ne_nil _ left, whole]

theorem trimBlanks_append {before text after : List Char}
    (blankBefore : ∀ c ∈ before, isBlank c = true) (blankAfter : ∀ c ∈ after, isBlank c = true)
    (bare : Bare text) : trimBlanks (before ++ text ++ after) = text := by
  have backward : ∀ c ∈ text.reverse.head?, isBlank c = false := by
    rw [List.head?_reverse]
    exact bare.back
  rw [trimBlanks, List.append_assoc, List.dropWhile_append_of_pos blankBefore]
  cases text with
  | nil =>
      rw [List.nil_append, List.dropWhile_eq_nil_iff.mpr blankAfter]
      rfl
  | cons c rest =>
      have kept : (c :: rest ++ after).dropWhile isBlank = c :: rest ++ after :=
        dropWhile_of_front bare.front
      rw [kept, dropEndWhile, List.reverse_append,
        List.dropWhile_append_of_pos (by simpa using blankAfter), dropWhile_of_front backward,
        List.reverse_reverse]

theorem bare_trimBlanks (text : List Char) : Bare (trimBlanks text) := by
  constructor
  · intro c first
    have trimmed : trimBlanks text <+: text.dropWhile isBlank := by
      rw [trimBlanks, dropEndWhile_eq_rdropWhile]
      exact List.rdropWhile_prefix isBlank _
    obtain ⟨cut, whole⟩ := trimmed
    apply front_dropWhile isBlank text
    rw [← whole, List.head?_append, first]
    rfl
  · intro c last
    rw [trimBlanks, dropEndWhile, List.getLast?_reverse] at last
    exact front_dropWhile isBlank _ c last

theorem trims_trimBlanks (text : List Char) : Trims text (trimBlanks text) := by
  have front : text.takeWhile isBlank ++ text.dropWhile isBlank = text :=
    List.takeWhile_append_dropWhile
  have back : (text.dropWhile isBlank).rdropWhile isBlank ++
      (text.dropWhile isBlank).rtakeWhile isBlank = text.dropWhile isBlank :=
    List.rdropWhile_append_rtakeWhile
  refine ⟨text.takeWhile isBlank, (text.dropWhile isBlank).rtakeWhile isBlank, ?_, ?_, ?_, ?_⟩
  · rw [trimBlanks, dropEndWhile_eq_rdropWhile, List.append_assoc, back, front]
  · intro c member
    exact List.mem_takeWhile_imp member
  · intro c member
    exact List.mem_rtakeWhile_imp member
  · exact bare_trimBlanks text

theorem trimBlanks_eq_iff {text trimmed : List Char} :
    trimBlanks text = trimmed ↔ Trims text trimmed := by
  constructor
  · intro same
    rw [← same]
    exact trims_trimBlanks text
  · intro trims
    obtain ⟨before, after, whole, blankBefore, blankAfter, bare⟩ := trims
    rw [whole]
    exact trimBlanks_append blankBefore blankAfter bare

theorem trimBlanks_of_bare {text : List Char} (bare : Bare text) : trimBlanks text = text := by
  have nothing : ∀ c ∈ ([] : List Char), isBlank c = true := List.forall_mem_nil _
  have whole := trimBlanks_append nothing nothing bare
  rw [List.nil_append, List.append_nil] at whole
  exact whole

end PackageSignature.Text
