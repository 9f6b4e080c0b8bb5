namespace EightBit.Path

/-!
# Paths

A path is a text cut into components at every `/`. Its name is the last
component that is neither empty nor a single dot, and its extension is what
follows the last dot of the name, unless that dot comes first.
-/

/-- The components of a path; there is always at least one, maybe empty. -/
def components : List Char → List (List Char)
  | [] => [[]]
  | character :: rest =>
      if character = '/' then
        [] :: components rest
      else
        match components rest with
        | [] => [[character]]
        | component :: others => (character :: component) :: others

/-- Whether a component leaves the place that it stands in. -/
def isNamed (component : List Char) : Bool :=
  component ≠ [] && component ≠ ['.']

/-- The name of what a path leads to; a path that ends in `..` has none. -/
def name? (path : List Char) : Option (List Char) :=
  match ((components path).filter isNamed).getLast? with
  | none => none
  | some name =>
      if name = ['.', '.'] then
        none
      else
        some name

/-- What follows the last dot of a name, unless there is none or it comes first. -/
def extensionOfName? (name : List Char) : Option (List Char) :=
  match name.reverse.dropWhile (· ≠ '.') with
  | [] => none
  | _ :: stem =>
      if stem.isEmpty then
        none
      else
        some (name.reverse.takeWhile (· ≠ '.')).reverse

/-- The extension of the name of what a path leads to. -/
def extension? (path : String) : Option String :=
  ((name? path.toList).bind extensionOfName?).map String.ofList

theorem components_ne_nil (path : List Char) :
    components path ≠ [] := by
  cases path with
  | nil =>
      simp [components]
  | cons character rest =>
      unfold components
      split
      · simp
      · split <;> simp

end EightBit.Path
