import PackageSignature.Config
import PackageSignature.Proofs.Text.Blank

/-! The extension that is read from the environment. Blanks are cut off first and dots after them,
and nothing is cut off again. So what is left has no dot in front and no blank behind it, but it
begins with a blank if one stood behind the dots; and it is just then that reading it once more
would yield another extension. -/

namespace PackageSignature

theorem Bytes.toList_loop (bytes : ByteArray) (index : Nat) (passed : List UInt8) :
    ByteArray.toList.loop bytes index passed = passed.reverse ++ bytes.data.toList.drop index := by
  fun_induction ByteArray.toList.loop bytes index passed with
  | case1 index passed inside ih =>
      have within : index < bytes.data.size := inside
      have next : bytes.get! index = bytes.data.toList[index] := by
        change bytes.data[index]! = _
        rw [getElem!_pos bytes.data index within, Array.getElem_toList]
      rw [ih, List.reverse_cons, List.append_assoc, List.drop_eq_getElem_cons within, next]
      rfl
  | case2 index passed outside =>
      rw [List.drop_eq_nil_of_le (Nat.le_of_not_lt outside), List.append_nil]

theorem Bytes.toText?_ofText (text : String) : toText? (ofText text) = some text := by
  have whole : ByteArray.mk (ofText text).toArray = text.toUTF8 := by
    rw [ofText, ByteArray.toList, toList_loop]
    rfl
  have valid : text.toUTF8.IsValidUTF8 := text.isValidUTF8
  rw [toText?, whole, String.fromUTF8?, dif_pos valid]
  rfl

namespace Environment

def set (environment : Environment) (name text : String) : Environment where
  bindings := (name, Bytes.ofText text) ::
    environment.bindings.filter (fun binding => binding.1 != name)

theorem text?_set (environment : Environment) (name text : String) :
    (environment.set name text).text? name = some text := by
  rw [text?, set, List.lookup_cons_self, Option.bind_some, Bytes.toText?_ofText]

end Environment

namespace Config

variable {text extension : String}

/-! ### What is read from a text -/

theorem extension?_eq_some_iff :
    extension? text = some extension ↔
      extension.toList ≠ [] ∧
        (Text.trimBlanks text.toList).dropWhile (· == '.') = extension.toList := by
  rw [extension?]
  cases left : (Text.trimBlanks text.toList).dropWhile (· == '.') with
  | nil =>
      constructor
      · intro impossible
        cases impossible
      · rintro ⟨something, nothing⟩
        exact (something nothing.symm).elim
  | cons c rest =>
      rw [Option.some.injEq]
      constructor
      · intro same
        rw [← same, String.toList_ofList]
        exact ⟨List.cons_ne_nil c rest, rfl⟩
      · rintro ⟨-, same⟩
        rw [same, String.ofList_toList]

/-- An extension that stands as it is: there is something in it, no dot in front of it and no blank
around it. -/
structure NormalExtension (extension : String) : Prop where
  nonempty : extension.toList ≠ []
  undotted : ∀ c ∈ extension.toList.head?, c ≠ '.'
  bare : Text.Bare extension.toList

theorem undotted_of_extension? (said : extension? text = some extension) :
    ∀ c ∈ extension.toList.head?, c ≠ '.' := by
  obtain ⟨-, left⟩ := extension?_eq_some_iff.mp said
  intro c first
  rw [← left] at first
  exact beq_eq_false_iff_ne.mp (Text.front_dropWhile (· == '.') _ c first)

theorem back_of_extension? (said : extension? text = some extension) :
    ∀ c ∈ extension.toList.getLast?, Text.isBlank c = false := by
  obtain ⟨something, left⟩ := extension?_eq_some_iff.mp said
  rw [← left] at something ⊢
  rw [Text.getLast?_dropWhile something]
  exact (Text.bare_trimBlanks text.toList).back

theorem extension?_eq_self_iff :
    extension? extension = some extension ↔ NormalExtension extension := by
  constructor
  · intro said
    obtain ⟨something, left⟩ := extension?_eq_some_iff.mp said
    have trimmed : Text.trimBlanks extension.toList = extension.toList := by
      -- Neither cut can make up for the other, so each of them cuts off nothing.
      have cut := (List.dropWhile_suffix (· == '.')
        (l := Text.trimBlanks extension.toList)).length_le
      obtain ⟨before, after, whole, -⟩ := Text.trims_trimBlanks extension.toList
      have counted := congrArg List.length whole
      rw [left] at cut
      rw [List.length_append, List.length_append] at counted
      have noneBefore : before = [] := List.length_eq_zero_iff.mp (by omega)
      have noneAfter : after = [] := List.length_eq_zero_iff.mp (by omega)
      rw [noneBefore, noneAfter, List.nil_append, List.append_nil] at whole
      exact whole.symm
    refine ⟨something, undotted_of_extension? said, ?_⟩
    rw [← trimmed]
    exact Text.bare_trimBlanks extension.toList
  · intro normal
    apply extension?_eq_some_iff.mpr
    refine ⟨normal.nonempty, ?_⟩
    rw [Text.trimBlanks_of_bare normal.bare]
    apply Text.dropWhile_of_front
    intro c first
    exact beq_eq_false_iff_ne.mpr (normal.undotted c first)

/-- Between the blanks around the text there are dots first, and then a blank. -/
def BlankBehindDots (text : String) : Prop :=
  ∃ dots c rest, Text.Trims text.toList (dots ++ c :: rest) ∧ dots ≠ [] ∧
    (∀ dot ∈ dots, dot = '.') ∧ Text.isBlank c = true

theorem dropWhile_dots {dots rest : List Char} {c : Char} (dotted : ∀ dot ∈ dots, dot = '.')
    (other : c ≠ '.') : (dots ++ c :: rest).dropWhile (· == '.') = c :: rest := by
  have dropped : ∀ dot ∈ dots, (dot == '.') = true := by
    intro dot member
    rw [dotted dot member, beq_self_eq_true]
  rw [List.dropWhile_append_of_pos dropped]
  apply Text.dropWhile_of_front
  intro first same
  cases same
  exact beq_eq_false_iff_ne.mpr other

theorem dropWhile_of_blankBehindDots (behind : BlankBehindDots text) :
    ∃ c rest, (Text.trimBlanks text.toList).dropWhile (· == '.') = c :: rest ∧
      Text.isBlank c = true := by
  obtain ⟨dots, c, rest, trims, -, dotted, blank⟩ := behind
  have other : c ≠ '.' := by
    intro same
    rw [same] at blank
    cases blank
  rw [Text.trimBlanks_eq_iff.mpr trims, dropWhile_dots dotted other]
  exact ⟨c, rest, rfl, blank⟩

theorem normal_iff_of_extension? (said : extension? text = some extension) :
    NormalExtension extension ↔ ¬ BlankBehindDots text := by
  obtain ⟨something, left⟩ := extension?_eq_some_iff.mp said
  constructor
  · intro normal behind
    obtain ⟨c, rest, same, blank⟩ := dropWhile_of_blankBehindDots behind
    rw [left] at same
    have bare := normal.bare.front c (by rw [same]; rfl)
    rw [blank] at bare
    cases bare
  · intro unspoilt
    refine ⟨something, undotted_of_extension? said, ?_, back_of_extension? said⟩
    intro c first
    apply Bool.eq_false_iff.mpr
    intro blank
    apply unspoilt
    obtain ⟨rest, same⟩ := List.head?_eq_some_iff.mp first
    have whole : (Text.trimBlanks text.toList).takeWhile (· == '.') ++ c :: rest =
        Text.trimBlanks text.toList := by
      rw [← same, ← left]
      exact List.takeWhile_append_dropWhile
    refine ⟨_, c, rest, Text.trimBlanks_eq_iff.mp whole.symm, ?_, ?_, blank⟩
    · -- Without a dot in front the blank would be at the front of what was trimmed.
      intro none
      rw [none, List.nil_append] at whole
      have bare := (Text.bare_trimBlanks text.toList).front c (by rw [← whole]; rfl)
      rw [blank] at bare
      cases bare
    · intro dot member
      have kept := List.mem_takeWhile_imp member
      exact beq_iff_eq.mp kept

theorem not_blankBehindDots_of_nothing (nothing : extension? text = none) :
    ¬ BlankBehindDots text := by
  intro behind
  obtain ⟨c, rest, same, -⟩ := dropWhile_of_blankBehindDots behind
  rw [extension?, same] at nothing
  cases nothing

/-! ### What is read from the environment -/

theorem normal_defaultExtension : NormalExtension defaultExtension := by
  refine ⟨by decide, ?_, ?_, ?_⟩
  · intro c first
    cases first
    decide
  · intro c first
    cases first
    decide
  · intro c last
    cases last
    decide

theorem sidecarExtension_of_text {environment : Environment}
    (set : environment.text? "IDSIG_SIDECAR_EXTENSION" = some text) :
    (ofEnvironment environment).sidecarExtension = (extension? text).getD defaultExtension := by
  rw [ofEnvironment, ofVariables, set]
  rfl

theorem sidecarExtension_of_unset {environment : Environment}
    (unset : environment.text? "IDSIG_SIDECAR_EXTENSION" = none) :
    (ofEnvironment environment).sidecarExtension = defaultExtension := by
  rw [ofEnvironment, ofVariables, unset]
  rfl

theorem sidecarExtension_set_eq_iff {environment : Environment} :
    (ofEnvironment (environment.set "IDSIG_SIDECAR_EXTENSION" extension)).sidecarExtension =
        extension ↔ NormalExtension extension := by
  rw [sidecarExtension_of_text (environment.text?_set _ _), ← extension?_eq_self_iff]
  cases said : extension? extension with
  | some other => rw [Option.getD_some, Option.some.injEq]
  | none =>
      rw [Option.getD_none]
      constructor
      · intro same
        rw [← same, extension?_eq_self_iff.mpr normal_defaultExtension] at said
        cases said
      · intro impossible
        cases impossible

/-- How an extension comes about that is read from an environment: some text says it, or it is the
default one, and then no text does. -/
inductive Source (environment : Environment) : String → Prop
  | said {text extension : String}
      (set : environment.text? "IDSIG_SIDECAR_EXTENSION" = some text)
      (said : extension? text = some extension) : Source environment extension
  | default
      (nothing : ∀ text, environment.text? "IDSIG_SIDECAR_EXTENSION" = some text →
        extension? text = none) : Source environment defaultExtension

theorem source_sidecarExtension (environment : Environment) :
    Source environment (ofEnvironment environment).sidecarExtension := by
  cases set : environment.text? "IDSIG_SIDECAR_EXTENSION" with
  | none =>
      rw [sidecarExtension_of_unset set]
      apply Source.default
      intro text impossible
      rw [set] at impossible
      cases impossible
  | some text =>
      rw [sidecarExtension_of_text set]
      cases said : extension? text with
      | some extension => exact .said set said
      | none =>
          apply Source.default
          intro other same
          rw [set] at same
          cases same
          exact said

/-- The extension that is read from an environment is never empty, has no dot in front and no blank
behind. It is normal, and read again as it is, unless a blank stood behind the dots. -/
theorem extension_normal_unless_blank_behind_dots (environment : Environment) :
    (ofEnvironment environment).sidecarExtension.toList ≠ [] ∧
    (∀ c ∈ (ofEnvironment environment).sidecarExtension.toList.head?, c ≠ '.') ∧
    (∀ c ∈ (ofEnvironment environment).sidecarExtension.toList.getLast?,
      Text.isBlank c = false) ∧
    (NormalExtension (ofEnvironment environment).sidecarExtension ↔
      ∀ text, environment.text? "IDSIG_SIDECAR_EXTENSION" = some text →
        ¬ BlankBehindDots text) ∧
    ((ofEnvironment (environment.set "IDSIG_SIDECAR_EXTENSION"
        (ofEnvironment environment).sidecarExtension)).sidecarExtension =
          (ofEnvironment environment).sidecarExtension ↔
      NormalExtension (ofEnvironment environment).sidecarExtension) := by
  have source := source_sidecarExtension environment
  generalize (ofEnvironment environment).sidecarExtension = extension at source ⊢
  cases source with
  | said set said =>
      refine ⟨(extension?_eq_some_iff.mp said).1, undotted_of_extension? said,
        back_of_extension? said, ?_, sidecarExtension_set_eq_iff⟩
      rw [normal_iff_of_extension? said, set]
      simp only [Option.some.injEq, forall_eq']
  | default nothing =>
      refine ⟨normal_defaultExtension.nonempty, normal_defaultExtension.undotted,
        normal_defaultExtension.bare.back, ?_, sidecarExtension_set_eq_iff⟩
      constructor
      · intro normal text set
        exact not_blankBehindDots_of_nothing (nothing text set)
      · intro unspoilt
        exact normal_defaultExtension

theorem extension_normal_unless_blank_behind_dots_dotted :
    ¬ BlankBehindDots ".v4 " ∧
      (ofEnvironment (Environment.set ⟨[]⟩ "IDSIG_SIDECAR_EXTENSION"
        (ofEnvironment (Environment.set ⟨[]⟩ "IDSIG_SIDECAR_EXTENSION"
          ".v4 ")).sidecarExtension)).sidecarExtension = "v4" := by
  have set := Environment.text?_set ⟨[]⟩ "IDSIG_SIDECAR_EXTENSION" ".v4 "
  have read : (ofEnvironment (Environment.set ⟨[]⟩ "IDSIG_SIDECAR_EXTENSION"
      ".v4 ")).sidecarExtension = "v4" := by
    rw [sidecarExtension_of_text set]
    decide
  obtain ⟨-, -, -, unspoilt, again⟩ := extension_normal_unless_blank_behind_dots
    (Environment.set ⟨[]⟩ "IDSIG_SIDECAR_EXTENSION" ".v4 ")
  have normal : NormalExtension "v4" := extension?_eq_self_iff.mp (by decide)
  rw [← read] at normal
  exact ⟨unspoilt.mp normal _ set, (again.mpr normal).trans read⟩

/-- The blank behind the dot stays, and goes when the extension is read once more. -/
theorem extension_keeps_blank_behind_dot :
    (ofEnvironment (Environment.set ⟨[]⟩ "IDSIG_SIDECAR_EXTENSION" ". v4")).sidecarExtension =
        " v4" ∧
      ¬ NormalExtension " v4" ∧
      (ofEnvironment (Environment.set ⟨[]⟩ "IDSIG_SIDECAR_EXTENSION" " v4")).sidecarExtension =
        "v4" := by
  refine ⟨?_, ?_, ?_⟩
  · rw [sidecarExtension_of_text (Environment.text?_set _ _ _)]
    decide
  · rw [← extension?_eq_self_iff]
    decide
  · rw [sidecarExtension_of_text (Environment.text?_set _ _ _)]
    decide

end Config

end PackageSignature
