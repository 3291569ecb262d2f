import Mathlib.Data.List.Forall2
import Mathlib.Data.Nat.Digits.Defs
import PackageSignature.Text.Blank
import PackageSignature.Text.Numeral

/-! What a numeral means. Digits are read from the left, and as soon as those that have been read
are too large, the rest does not matter any more. What has been written is read as the number it
was written for, whatever the case of its letters. -/

namespace PackageSignature.Text.Numeral

variable {base bound value digit n : Nat} {c : Char} {letters printed text : List Char}
  {digits : List Nat}

def IsDigit (base : Nat) (c : Char) (digit : Nat) : Prop :=
  digit < base ∧ (c = Nat.digitChar digit ∨ c = (Nat.digitChar digit).toUpper)

/-- The characters are the digits of the number, the leading one first. -/
def Spells (base : Nat) (letters : List Char) (n : Nat) : Prop :=
  ∃ digits, List.Forall₂ (IsDigit base) letters digits ∧ n = Nat.ofDigits base digits.reverse

theorem digit?_digitChar : ∀ digit < 16,
    digit? (Nat.digitChar digit) = some digit ∧
      digit? (Nat.digitChar digit).toUpper = some digit := by
  decide

theorem toNat_digitChar : ∀ digit < 16,
    (Nat.digitChar digit).toNat = (if digit < 10 then digit + 48 else digit + 87) ∧
      (Nat.digitChar digit).toUpper.toNat = if digit < 10 then digit + 48 else digit + 55 := by
  decide

theorem digit?_eq_some_iff : digit? c = some digit ↔ IsDigit 16 c digit := by
  constructor
  · intro found
    simp only [digit?] at found
    split at found
    case isTrue decimal =>
      cases found
      obtain ⟨same, -⟩ := toNat_digitChar (c.toNat - 48) (by omega)
      rw [if_pos (by omega)] at same
      exact ⟨by omega, .inl (Char.toNat_inj.mp (by omega))⟩
    case isFalse =>
      split at found
      case isTrue upper =>
        cases found
        obtain ⟨-, same⟩ := toNat_digitChar (c.toNat - 55) (by omega)
        rw [if_neg (by omega)] at same
        exact ⟨by omega, .inr (Char.toNat_inj.mp (by omega))⟩
      case isFalse =>
        split at found
        case isTrue lower =>
          cases found
          obtain ⟨same, -⟩ := toNat_digitChar (c.toNat - 87) (by omega)
          rw [if_neg (by omega)] at same
          exact ⟨by omega, .inl (Char.toNat_inj.mp (by omega))⟩
        case isFalse => cases found
  · rintro ⟨small, same | same⟩
    · rw [same]
      exact (digit?_digitChar digit small).1
    · rw [same]
      exact (digit?_digitChar digit small).2

theorem digitOf?_eq_some_iff (small : base ≤ 16) :
    digitOf? base c = some digit ↔ IsDigit base c digit := by
  rw [digitOf?, Option.filter_eq_some_iff, digit?_eq_some_iff, decide_eq_true_eq]
  constructor
  · rintro ⟨⟨-, same⟩, within⟩
    exact ⟨within, same⟩
  · rintro ⟨within, same⟩
    exact ⟨⟨by omega, same⟩, within⟩

theorem IsDigit.ne {other : Char} (isDigit : IsDigit base c digit) (small : base ≤ 16)
    (none : digit? other = none) : c ≠ other := by
  rintro rfl
  rw [← digitOf?_eq_some_iff small, digitOf?, none] at isDigit
  cases isDigit

theorem Spells.exists_digit (spells : Spells base letters n) :
    ∀ c ∈ letters, ∃ digit, IsDigit base c digit := by
  obtain ⟨digits, spelt, -⟩ := spells
  induction spelt with
  | nil =>
      intro c impossible
      cases impossible
  | @cons first digit others more isDigit spelt ih =>
      intro c member
      cases member with
      | head => exact ⟨digit, isDigit⟩
      | tail _ member => exact ih c member

/-! ### Reading -/

def advance (base value : Nat) (digits : List Nat) : Nat :=
  digits.foldl (fun value digit => value * base + digit) value

theorem advance_cons : advance base value (digit :: digits) =
    advance base (value * base + digit) digits := rfl

theorem advance_zero : advance base 0 digits = Nat.ofDigits base digits.reverse := by
  rw [advance, Nat.ofDigits_eq_foldr, List.foldr_reverse]
  congr 1
  funext value digit
  rw [Nat.mul_comm, Nat.add_comm]
  rfl

theorem le_advance (positive : 0 < base) : value ≤ advance base value digits := by
  induction digits generalizing value with
  | nil => exact Nat.le_refl value
  | cons digit others ih =>
      have grown : value ≤ value * base := Nat.le_mul_of_pos_right value positive
      calc value ≤ value * base + digit := by omega
        _ ≤ advance base (value * base + digit) others := ih

theorem readDigits_cons (small : base ≤ 16) (first : IsDigit base c digit) (rest : List Char) :
    readDigits base bound value (c :: rest) =
      if bound < value * base + digit then .error .tooLarge
      else readDigits base bound (value * base + digit) rest := by
  rw [readDigits, (digitOf?_eq_some_iff small).mpr first]

theorem readDigits_cons_of_other (small : base ≤ 16) (other : ∀ digit, ¬ IsDigit base c digit)
    (rest : List Char) : readDigits base bound value (c :: rest) = .error .invalidDigit := by
  rw [readDigits]
  cases found : digitOf? base c with
  | none => rfl
  | some digit => exact (other digit ((digitOf?_eq_some_iff small).mp found)).elim

theorem readDigits_eq_ok_iff (small : base ≤ 16) (within : value ≤ bound) :
    readDigits base bound value letters = .ok n ↔
      n ≤ bound ∧ ∃ digits, List.Forall₂ (IsDigit base) letters digits ∧
        n = advance base value digits := by
  induction letters generalizing value with
  | nil =>
      rw [readDigits, Except.ok.injEq]
      constructor
      · intro same
        rw [← same]
        exact ⟨within, [], .nil, rfl⟩
      · rintro ⟨-, digits, spelt, same⟩
        cases spelt
        exact same.symm
  | cons c rest ih =>
      constructor
      · intro read
        by_cases known : ∃ digit, IsDigit base c digit
        · obtain ⟨digit, first⟩ := known
          rw [readDigits_cons small first] at read
          split at read
          case isTrue => cases read
          case isFalse inside =>
            obtain ⟨bounded, digits, others, same⟩ := (ih (Nat.le_of_not_lt inside)).mp read
            exact ⟨bounded, digit :: digits, .cons first others, same⟩
        · rw [readDigits_cons_of_other small (not_exists.mp known)] at read
          cases read
      · rintro ⟨bounded, digits, spelt, same⟩
        cases spelt with
        | @cons c digit rest others first spelt =>
            have least : value * base + digit ≤ advance base (value * base + digit) others :=
              le_advance (Nat.zero_lt_of_lt first.1)
            rw [advance_cons] at same
            have inside : ¬ bound < value * base + digit := by omega
            rw [readDigits_cons small first, if_neg inside, ih (Nat.le_of_not_lt inside)]
            exact ⟨bounded, others, spelt, same⟩

theorem readDigits_eq_tooLarge_iff (small : base ≤ 16) (within : value ≤ bound) :
    readDigits base bound value letters = .error .tooLarge ↔
      ∃ front rest digits, letters = front ++ rest ∧
        List.Forall₂ (IsDigit base) front digits ∧ bound < advance base value digits := by
  induction letters generalizing value with
  | nil =>
      constructor
      · intro impossible
        cases impossible
      · rintro ⟨front, rest, digits, split, spelt, above⟩
        obtain ⟨rfl, -⟩ := List.nil_eq_append_iff.mp split
        cases spelt
        exact (Nat.not_lt.mpr within above).elim
  | cons c rest ih =>
      constructor
      · intro read
        by_cases known : ∃ digit, IsDigit base c digit
        · obtain ⟨digit, first⟩ := known
          rw [readDigits_cons small first] at read
          split at read
          case isTrue above => exact ⟨[c], rest, [digit], rfl, .cons first .nil, above⟩
          case isFalse inside =>
            obtain ⟨front, behind, digits, rfl, spelt, above⟩ :=
              (ih (Nat.le_of_not_lt inside)).mp read
            exact ⟨c :: front, behind, digit :: digits, rfl, .cons first spelt, above⟩
        · rw [readDigits_cons_of_other small (not_exists.mp known)] at read
          cases read
      · rintro ⟨front, behind, digits, split, spelt, above⟩
        cases spelt with
        | nil => exact (Nat.not_lt.mpr within above).elim
        | @cons c digit front others first spelt =>
            obtain ⟨rfl, rfl⟩ := List.cons.inj split
            rw [readDigits_cons small first]
            split
            case isTrue => rfl
            case isFalse inside =>
              exact (ih (Nat.le_of_not_lt inside)).mpr
                ⟨front, behind, others, rfl, spelt, above⟩

theorem readDigits_ne_empty : readDigits base bound value letters ≠ .error .empty := by
  intro impossible
  fun_induction readDigits base bound value letters with
  | case1 => cases impossible
  | case2 => cases impossible
  | case3 => cases impossible
  | case4 value c rest digit found inside ih => exact ih impossible

/-! ### Numerals -/

/-- The text is a number: digits, before which one plus sign may stand. -/
def Denotes (base : Nat) (text : List Char) (n : Nat) : Prop :=
  ∃ letters, (text = letters ∨ text = '+' :: letters) ∧ letters ≠ [] ∧ Spells base letters n

/-- The digits in front are above the bound already, whatever comes behind them. -/
def Exceeds (base bound : Nat) (text : List Char) : Prop :=
  ∃ letters rest n, (text = letters ++ rest ∨ text = '+' :: (letters ++ rest)) ∧
    Spells base letters n ∧ bound < n

def Refuses (base bound : Nat) (text : List Char) : NumeralError → Prop
  | .empty => text = []
  | .tooLarge => Exceeds base bound text
  | .invalidDigit =>
      text ≠ [] ∧ ¬ Exceeds base bound text ∧ ∀ n, n ≤ bound → ¬ Denotes base text n

def unsigned : List Char → List Char
  | '+' :: rest => rest
  | text => text

theorem unsigned_of_other (other : c ≠ '+') (rest : List Char) :
    unsigned (c :: rest) = c :: rest := by
  unfold unsigned
  split
  case h_1 same => exact (other (List.cons.inj same).1).elim
  case h_2 => rfl

theorem signed_unsigned (text : List Char) :
    text = unsigned text ∨ text = '+' :: unsigned text := by
  unfold unsigned
  split
  case h_1 => exact .inr rfl
  case h_2 => exact .inl rfl

theorem eq_unsigned (small : base ≤ 16) {rest : List Char} (spells : Spells base letters n)
    (something : letters ≠ [])
    (signed : text = letters ++ rest ∨ text = '+' :: (letters ++ rest)) :
    letters ++ rest = unsigned text := by
  cases signed with
  | inr same => rw [same, unsigned]
  | inl same =>
      obtain ⟨digits, spelt, -⟩ := spells
      cases spelt with
      | nil => exact (something rfl).elim
      | @cons c digit others more first =>
          rw [same, List.cons_append, unsigned_of_other (first.ne small rfl)]

theorem read_of_unsigned (something : unsigned text ≠ []) :
    read base bound text = readDigits base bound 0 (unsigned text) := by
  cases text with
  | nil => exact (something rfl).elim
  | cons c rest =>
      by_cases plus : c = '+'
      · rw [plus] at something ⊢
        rw [unsigned] at something ⊢
        cases rest with
        | nil => exact (something rfl).elim
        | cons first others => rfl
      · rw [unsigned_of_other plus]
        unfold read
        split
        case h_1 same => cases same
        case h_2 same => exact (plus (List.cons.inj same).1).elim
        case h_3 same => exact (plus (List.cons.inj same).1).elim
        case h_4 => rfl

theorem eq_of_unsigned_eq_nil (nothing : unsigned text = []) : text = [] ∨ text = ['+'] := by
  cases text with
  | nil => exact .inl rfl
  | cons c rest =>
      by_cases plus : c = '+'
      · rw [plus, unsigned] at nothing
        rw [plus, nothing]
        exact .inr rfl
      · rw [unsigned_of_other plus] at nothing
        cases nothing

theorem denotes_iff (small : base ≤ 16) :
    Denotes base text n ↔ unsigned text ≠ [] ∧ Spells base (unsigned text) n := by
  constructor
  · rintro ⟨letters, signed, something, spells⟩
    rw [← List.append_nil letters] at signed
    have same := eq_unsigned small spells something signed
    rw [List.append_nil] at same
    rw [← same]
    exact ⟨something, spells⟩
  · rintro ⟨something, spells⟩
    exact ⟨unsigned text, signed_unsigned text, something, spells⟩

theorem not_lt_of_spells_nil (spells : Spells base [] n) : ¬ bound < n := by
  obtain ⟨digits, spelt, same⟩ := spells
  cases spelt
  rw [same]
  exact Nat.not_lt_zero bound

theorem exceeds_iff (small : base ≤ 16) :
    Exceeds base bound text ↔
      ∃ front rest n, unsigned text = front ++ rest ∧ Spells base front n ∧ bound < n := by
  constructor
  · rintro ⟨front, rest, n, signed, spells, above⟩
    have something : front ≠ [] := by
      rintro rfl
      exact not_lt_of_spells_nil spells above
    exact ⟨front, rest, n, (eq_unsigned small spells something signed).symm, spells, above⟩
  · rintro ⟨front, rest, n, split, spells, above⟩
    refine ⟨front, rest, n, ?_, spells, above⟩
    rw [← split]
    exact signed_unsigned text

theorem read_eq_ok_iff (small : base ≤ 16) :
    read base bound text = .ok n ↔ n ≤ bound ∧ Denotes base text n := by
  rw [denotes_iff small]
  by_cases something : unsigned text ≠ []
  · rw [read_of_unsigned something, readDigits_eq_ok_iff small (Nat.zero_le bound)]
    simp only [advance_zero, Spells, something, ne_eq, not_false_eq_true, true_and]
  · constructor
    · intro read
      obtain rfl | rfl := eq_of_unsigned_eq_nil (not_not.mp something)
      · cases read
      · cases read
    · rintro ⟨-, possible, -⟩
      exact (something possible).elim

theorem read_eq_tooLarge_iff (small : base ≤ 16) :
    read base bound text = .error .tooLarge ↔ Exceeds base bound text := by
  rw [exceeds_iff small]
  by_cases something : unsigned text ≠ []
  · rw [read_of_unsigned something, readDigits_eq_tooLarge_iff small (Nat.zero_le bound)]
    constructor
    · rintro ⟨front, rest, digits, split, spelt, above⟩
      rw [advance_zero] at above
      exact ⟨front, rest, _, split, ⟨digits, spelt, rfl⟩, above⟩
    · rintro ⟨front, rest, n, split, ⟨digits, spelt, same⟩, above⟩
      rw [same, ← advance_zero] at above
      exact ⟨front, rest, digits, split, spelt, above⟩
  · constructor
    · intro read
      obtain rfl | rfl := eq_of_unsigned_eq_nil (not_not.mp something)
      · cases read
      · cases read
    · rintro ⟨front, rest, n, split, spells, above⟩
      rw [not_not.mp something, List.nil_eq_append_iff] at split
      rw [split.1] at spells
      exact (not_lt_of_spells_nil spells above).elim

theorem read_eq_empty_iff : read base bound text = .error .empty ↔ text = [] := by
  constructor
  · intro read
    by_cases something : unsigned text ≠ []
    · rw [read_of_unsigned something] at read
      exact (readDigits_ne_empty read).elim
    · obtain nothing | sign := eq_of_unsigned_eq_nil (not_not.mp something)
      · exact nothing
      · rw [sign] at read
        cases read
  · intro nothing
    rw [nothing]
    rfl

/-- There is one thing wrong with each text that is not read, and an invalid digit is what is left. -/
theorem read_eq_error_iff (small : base ≤ 16) {error : NumeralError} :
    read base bound text = .error error ↔ Refuses base bound text error := by
  cases error with
  | empty => exact read_eq_empty_iff
  | tooLarge => exact read_eq_tooLarge_iff small
  | invalidDigit =>
      constructor
      · intro invalid
        refine ⟨?_, ?_, ?_⟩
        · intro nothing
          rw [read_eq_empty_iff.mpr nothing] at invalid
          cases invalid
        · intro exceeds
          rw [(read_eq_tooLarge_iff small).mpr exceeds] at invalid
          cases invalid
        · intro n within denotes
          rw [(read_eq_ok_iff small).mpr ⟨within, denotes⟩] at invalid
          cases invalid
      · rintro ⟨something, short, other⟩
        cases outcome : read base bound text with
        | ok n =>
            obtain ⟨within, denotes⟩ := (read_eq_ok_iff small).mp outcome
            exact (other n within denotes).elim
        | error error =>
            cases error with
            | empty => exact (something (read_eq_empty_iff.mp outcome)).elim
            | tooLarge => exact (short ((read_eq_tooLarge_iff small).mp outcome)).elim
            | invalidDigit => rfl

/-! ### Writing -/

def Writes (base : Nat) (printed : List Char) (n : Nat) : Prop :=
  ∃ digits, List.Forall₂ (fun c digit => digit < base ∧ c = Nat.digitChar digit) printed digits ∧
    n = Nat.ofDigits base digits.reverse

def SameLetter (c written : Char) : Prop :=
  c = written ∨ c = written.toUpper

theorem isDigit_of_sameLetters (same : List.Forall₂ SameLetter letters printed)
    (spelt : List.Forall₂ (fun c digit => digit < base ∧ c = Nat.digitChar digit) printed digits) :
    List.Forall₂ (IsDigit base) letters digits := by
  induction same generalizing digits with
  | nil =>
      cases spelt
      exact .nil
  | cons same others ih =>
      cases spelt with
      | cons first spelt =>
          refine .cons ⟨first.1, ?_⟩ (ih spelt)
          rw [← first.2]
          exact same

theorem Writes.spells (writes : Writes base printed n)
    (same : List.Forall₂ SameLetter letters printed) : Spells base letters n := by
  obtain ⟨digits, spelt, value⟩ := writes
  exact ⟨digits, isDigit_of_sameLetters same spelt, value⟩

theorem sameLetters_refl (letters : List Char) : List.Forall₂ SameLetter letters letters :=
  List.forall₂_same.mpr (fun _ _ => .inl rfl)

theorem writes_toDigits (several : 1 < base) (n : Nat) : Writes base (Nat.toDigits base n) n := by
  induction n using Nat.strong_induction_on with
  | _ n ih =>
      by_cases short : n < base
      · rw [Nat.toDigits_of_lt_base short]
        exact ⟨[n], .cons ⟨short, rfl⟩ .nil, Nat.ofDigits_singleton.symm⟩
      · have long := Nat.le_of_not_lt short
        obtain ⟨digits, spelt, same⟩ := ih (n / base) (Nat.div_lt_self (by omega) several)
        rw [Nat.toDigits_of_base_le several long]
        refine ⟨digits ++ [n % base], ?_, ?_⟩
        · exact List.rel_append spelt (.cons ⟨Nat.mod_lt n (by omega), rfl⟩ .nil)
        · rw [List.reverse_append, List.reverse_singleton, List.singleton_append,
            Nat.ofDigits_cons, ← same]
          exact (Nat.mod_add_div n base).symm

theorem Writes.zeros (positive : 0 < base) (writes : Writes base printed n) (count : Nat) :
    Writes base (List.replicate count '0' ++ printed) n := by
  obtain ⟨digits, spelt, value⟩ := writes
  refine ⟨List.replicate count 0 ++ digits, ?_, ?_⟩
  · refine List.rel_append ?_ spelt
    induction count with
    | zero => exact .nil
    | succ count ih => exact .cons ⟨positive, rfl⟩ ih
  · rw [List.reverse_append, List.reverse_replicate, Nat.ofDigits_append_replicate_zero]
    exact value

theorem writes_hex (width n : Nat) : Writes 16 (hex width n).toList n := by
  rw [hex, String.toList_ofList]
  exact (writes_toDigits (by decide) n).zeros (by decide) _

theorem writes_toString (n : Nat) : Writes 10 (toString n).toList n := by
  rw [Nat.toString_eq_repr, Nat.toList_repr]
  exact writes_toDigits (by decide) n

theorem Spells.denotes (spells : Spells base letters n) (something : letters ≠ []) :
    Denotes base letters n :=
  ⟨letters, .inl rfl, something, spells⟩

theorem isBlank_digitChar : ∀ digit < 16, isBlank (Nat.digitChar digit) = false ∧
    isBlank (Nat.digitChar digit).toUpper = false := by
  decide

theorem isBlank_of_isDigit (small : base ≤ 16) (isDigit : IsDigit base c digit) :
    isBlank c = false := by
  obtain ⟨plain, upper⟩ := isBlank_digitChar digit (by have := isDigit.1; omega)
  cases isDigit.2 with
  | inl same =>
      rw [same]
      exact plain
  | inr same =>
      rw [same]
      exact upper

end PackageSignature.Text.Numeral
