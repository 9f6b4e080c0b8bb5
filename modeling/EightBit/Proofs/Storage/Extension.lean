import EightBit.Proofs.Text.Line
import EightBit.Storage.Path

namespace EightBit.Path

/-!
# What the extension of a path is

The extension is a matter of how a path is written. Separators at its end do not
count, nor do single dots behind them; what stands in front of them, back to the
separator before, is the name that the path ends in. The extension is the part of
that name behind its last dot. There is none where the path has no name, where the
name is two dots, and where it has no dot other than one in front.
-/

/-- What does not count at the end of a path: separators and single dots behind them. -/
inductive IsIgnored : List Char → Prop where
  | nil :
      IsIgnored []
  | separator
      {rest : List Char}
      (ignored : IsIgnored rest) :
      IsIgnored ('/' :: rest)
  | dot
      {rest : List Char}
      (ignored : IsIgnored rest) :
      IsIgnored ('/' :: '.' :: rest)

/-- A text between two separators that is neither empty nor a single dot. -/
structure IsName (name : List Char) : Prop where
  noSeparator : '/' ∉ name
  nonempty : name ≠ []
  notDot : name ≠ ['.']

/-- A path ends in a name, apart from what does not count behind it. -/
inductive EndsIn : List Char → List Char → Prop where
  | alone
      {name behind : List Char}
      (isName : IsName name)
      (ignored : IsIgnored behind) :
      EndsIn (name ++ behind) name
  | below
      (before : List Char)
      {name behind : List Char}
      (isName : IsName name)
      (ignored : IsIgnored behind) :
      EndsIn (before ++ '/' :: (name ++ behind)) name

/-- The extension of a path, if it has one, by the name that the path ends in. -/
inductive HasExtension (path : List Char) : Option (List Char) → Prop where
  | nameless
      (ignored : IsIgnored ('/' :: path)) :
      HasExtension path none
  | upward
      (ends : EndsIn path ['.', '.']) :
      HasExtension path none
  | dotless
      {name : List Char}
      (ends : EndsIn path name)
      (noDot : '.' ∉ name) :
      HasExtension path none
  | hidden
      {name : List Char}
      (ends : EndsIn path ('.' :: name))
      (noDot : '.' ∉ name) :
      HasExtension path none
  | suffixed
      {stem suffix : List Char}
      (ends : EndsIn path (stem ++ '.' :: suffix))
      (notUpward : stem ++ '.' :: suffix ≠ ['.', '.'])
      (stemmed : stem ≠ [])
      (noDot : '.' ∉ suffix) :
      HasExtension path (some suffix)

/-! ## Components -/

theorem isNamed_iff {component : List Char} :
    isNamed component ↔ component ≠ [] ∧ component ≠ ['.'] := by
  simp [isNamed]

theorem components_of_not_mem
    {component : List Char}
    (noSeparator : '/' ∉ component) :
    components component = [component] := by
  induction component with
  | nil =>
      rfl
  | cons character rest inductionHypothesis =>
      obtain ⟨other, restClean⟩ :=
        not_or.mp (mt List.mem_cons.mpr noSeparator)
      rw [components, if_neg (Ne.symm other), inductionHypothesis restClean]

/-- A path is cut at each of its separators. -/
theorem components_append_separator (before rest : List Char) :
    components (before ++ '/' :: rest) =
      components before ++ components rest := by
  induction before with
  | nil =>
      rfl
  | cons character others inductionHypothesis =>
      by_cases separator : character = '/'
      · simp [components, separator, inductionHypothesis]
      · simp only [List.cons_append, components, separator, ↓reduceIte,
          inductionHypothesis]
        cases parts : components others with
        | nil =>
            exact absurd parts (components_ne_nil others)
        | cons component more =>
            rfl

/-- The components of a path that lead anywhere else. -/
def names (path : List Char) : List (List Char) :=
  (components path).filter isNamed

theorem names_append_separator (before rest : List Char) :
    names (before ++ '/' :: rest) = names before ++ names rest := by
  rw [names, components_append_separator, List.filter_append]
  rfl

theorem names_of_isName
    {name : List Char}
    (isName : IsName name) :
    names name = [name] := by
  have named : isNamed name :=
    isNamed_iff.mpr ⟨isName.nonempty, isName.notDot⟩
  rw [names, components_of_not_mem isName.noSeparator,
    List.filter_singleton, named]
  rfl

/-- What does not count at the end of a path adds no name to it. -/
theorem names_append_of_isIgnored
    {behind : List Char}
    (ignored : IsIgnored behind)
    (path : List Char) :
    names (path ++ behind) = names path := by
  induction ignored generalizing path with
  | nil =>
      rw [List.append_nil]
  | @separator rest _ inductionHypothesis =>
      have nothing : names rest = [] := inductionHypothesis []
      rw [names_append_separator, nothing, List.append_nil]
  | @dot rest _ inductionHypothesis =>
      have nothing : names ('.' :: rest) = [] := inductionHypothesis ['.']
      rw [names_append_separator, nothing, List.append_nil]

theorem names_of_isIgnored
    {path : List Char}
    (ignored : IsIgnored ('/' :: path)) :
    names path = [] := by
  have all := names_append_of_isIgnored ignored []
  have front : names ([] ++ '/' :: path) = [] ++ names path :=
    names_append_separator [] path
  rw [front] at all
  exact all

theorem EndsIn.getLast?_names
    {path name : List Char}
    (ends : EndsIn path name) :
    (names path).getLast? = some name := by
  cases ends with
  | alone isName ignored =>
      rw [names_append_of_isIgnored ignored, names_of_isName isName]
      rfl
  | below before isName ignored =>
      rw [names_append_separator, names_append_of_isIgnored ignored,
        names_of_isName isName, List.getLast?_concat]

theorem EndsIn.prepend
    {path name : List Char}
    (ends : EndsIn path name)
    (component : List Char) :
    EndsIn (component ++ '/' :: path) name := by
  cases ends with
  | alone isName ignored =>
      exact .below component isName ignored
  | @below before _ behind isName ignored =>
      have extended :=
        EndsIn.below (component ++ '/' :: before) isName ignored
      rwa [List.append_assoc] at extended

/-- A path has nothing in it that counts, or it ends in a name. -/
theorem isIgnored_or_endsIn (path : List Char) :
    IsIgnored ('/' :: path) ∨ ∃ name, EndsIn path name := by
  induction path using @Text.separated_induction '/' with
  | last component noSeparator =>
      by_cases nonempty : component = []
      · subst nonempty
        exact .inl (.separator .nil)
      · by_cases notDot : component = ['.']
        · subst notDot
          exact .inl (.dot .nil)
        · have ends := EndsIn.alone ⟨noSeparator, nonempty, notDot⟩ .nil
          rw [List.append_nil] at ends
          exact .inr ⟨component, ends⟩
  | next component rest noSeparator inductionHypothesis =>
      -- The component in front counts only if all that is behind it is ignored.
      rcases inductionHypothesis with ignored | ⟨name, ends⟩
      · by_cases nonempty : component = []
        · subst nonempty
          exact .inl (.separator ignored)
        · by_cases notDot : component = ['.']
          · subst notDot
            exact .inl (.dot ignored)
          · exact
              .inr ⟨component, .alone ⟨noSeparator, nonempty, notDot⟩ ignored⟩
      · exact .inr ⟨name, ends.prepend component⟩

/-! ## Names -/

theorem extensionOfName?_of_not_mem
    {name : List Char}
    (noDot : '.' ∉ name) :
    extensionOfName? name = none := by
  have nothing : name.reverse.dropWhile (· ≠ '.') = [] := by
    rw [List.dropWhile_eq_nil_iff]
    intro character member
    have inName : character ∈ name := List.mem_reverse.mp member
    simpa using ne_of_mem_of_not_mem inName noDot
  rw [extensionOfName?, nothing]

/-- The last dot of a name parts it from its extension, unless it comes first. -/
theorem extensionOfName?_append
    {suffix : List Char}
    (noDot : '.' ∉ suffix)
    (stem : List Char) :
    extensionOfName? (stem ++ '.' :: suffix) =
      if stem = [] then none else some suffix := by
  have others : ∀ character ∈ suffix.reverse, decide (character ≠ '.') := by
    intro character member
    have inSuffix : character ∈ suffix := List.mem_reverse.mp member
    simpa using ne_of_mem_of_not_mem inSuffix noDot
  have reversed :
      (stem ++ '.' :: suffix).reverse =
        suffix.reverse ++ '.' :: stem.reverse := by
    simp
  have dropped :
      (suffix.reverse ++ '.' :: stem.reverse).dropWhile (· ≠ '.') =
        '.' :: stem.reverse := by
    rw [List.dropWhile_append_of_pos others]
    rfl
  have taken :
      (suffix.reverse ++ '.' :: stem.reverse).takeWhile (· ≠ '.') =
        suffix.reverse := by
    rw [List.takeWhile_append_of_pos others]
    simp
  rw [extensionOfName?, reversed, dropped, taken]
  cases stem <;> simp

/-- A name has no dot, or a last one. -/
theorem not_mem_or_exists_last_dot (name : List Char) :
    '.' ∉ name ∨
      ∃ stem suffix, name = stem ++ '.' :: suffix ∧ '.' ∉ suffix := by
  by_cases dotted : '.' ∈ name
  · obtain ⟨behind, front, reversed, noDot⟩ :=
      List.eq_append_cons_of_mem (List.mem_reverse.mpr dotted)
    refine .inr ⟨front.reverse, behind.reverse, ?_, ?_⟩
    · rw [← List.reverse_reverse name, reversed]
      simp
    · rwa [List.mem_reverse]
  · exact .inl dotted

/-! ## Paths -/

theorem name?_eq (path : List Char) :
    name? path =
      match (names path).getLast? with
      | none => none
      | some name => if name = ['.', '.'] then none else some name :=
  rfl

theorem exists_hasExtension (path : List Char) :
    ∃ extension, HasExtension path extension := by
  rcases isIgnored_or_endsIn path with ignored | ⟨name, ends⟩
  · exact ⟨none, .nameless ignored⟩
  · by_cases upward : name = ['.', '.']
    · subst upward
      exact ⟨none, .upward ends⟩
    · rcases not_mem_or_exists_last_dot name with
        noDot | ⟨stem, suffix, rfl, noDot⟩
      · exact ⟨none, .dotless ends noDot⟩
      · by_cases stemmed : stem = []
        · subst stemmed
          exact ⟨none, .hidden ends noDot⟩
        · exact ⟨some suffix, .suffixed ends upward stemmed noDot⟩

theorem HasExtension.extension?_eq
    {path : List Char}
    {extension : Option (List Char)}
    (has : HasExtension path extension) :
    (name? path).bind extensionOfName? = extension := by
  rw [name?_eq]
  cases has with
  | nameless ignored =>
      rw [names_of_isIgnored ignored]
      rfl
  | upward ends =>
      rw [ends.getLast?_names]
      rfl
  | @dotless name ends noDot =>
      rw [ends.getLast?_names]
      have notUpward : name ≠ ['.', '.'] := by
        rintro rfl
        exact noDot List.mem_cons_self
      simp only [notUpward, ↓reduceIte, Option.bind_some]
      exact extensionOfName?_of_not_mem noDot
  | @hidden name ends noDot =>
      rw [ends.getLast?_names]
      have notUpward : '.' :: name ≠ ['.', '.'] := by
        rintro shape
        obtain rfl := (List.cons.inj shape).2
        exact noDot List.mem_cons_self
      simp only [notUpward, ↓reduceIte, Option.bind_some]
      exact extensionOfName?_append noDot []
  | suffixed ends notUpward stemmed noDot =>
      rw [ends.getLast?_names]
      simp only [notUpward, ↓reduceIte, Option.bind_some]
      rw [extensionOfName?_append noDot, if_neg stemmed]

/-- The extension that is found is the one that the path is written with. -/
theorem extension?_eq_iff
    {path : String}
    {extension : Option (List Char)} :
    extension? path = extension.map String.ofList ↔
      HasExtension path.toList extension := by
  obtain ⟨written, has⟩ := exists_hasExtension path.toList
  have found : extension? path = written.map String.ofList := by
    rw [extension?, has.extension?_eq]
  constructor
  · intro same
    have injective : Function.Injective (Option.map String.ofList) :=
      Option.map_injective fun _ _ => String.ofList_injective
    rwa [injective (same.symm.trans found)]
  · intro other
    rw [extension?, other.extension?_eq]

example : HasExtension "a.b/.x/..c.ls8/./".toList (some "ls8".toList) :=
  extension?_eq_iff.mp (by decide +kernel)

end EightBit.Path
