import EightBit.Proofs.Text.Encoding
import EightBit.Settings
import Mathlib.Data.List.Basic
import Mathlib.Data.List.Induction

namespace EightBit.Settings

/-!
# Histories of settings

Operations on the variable and on the settings are done one after the other, in
any order. The settings that are asked for come from the variable as it was at
the latest initialisation, although every initialisation but the first is told
to be a misuse. They are fixed by the first one only as long as no other finds
the variable at a value that would decide otherwise.
-/

/-- Something done to the variable or to the settings. -/
inductive Operation where
  | assign (value : Option (List UInt8))
  | initialise
  | ask
  deriving Repr, DecidableEq

/-- What an operation answers. -/
inductive Response where
  | assigned
  | initialised (result : Except Misuse Unit)
  | asked (result : Except Misuse Bool)

namespace Holder

/-- Do one operation. -/
def perform
    (holder : Holder) :
    Operation → Response × Holder
  | .assign value => (.assigned, holder.assign value)
  | .initialise => (.initialised holder.initialise.1, holder.initialise.2)
  | .ask => (.asked holder.isTracing, holder)

/-- What is held when operations have been done. -/
def after
    (holder : Holder)
    (operations : List Operation) :
    Holder :=
  operations.foldl (fun current operation => (current.perform operation).2) holder

/-- What operations answer, in order. -/
def responses : Holder → List Operation → List Response
  | _, [] => []
  | holder, operation :: rest =>
      (holder.perform operation).1 ::
        responses (holder.perform operation).2 rest

/-- Before any initialisation, with the variable as it is found. -/
def fresh (assigned : Option (List UInt8)) : Holder where
  assigned := assigned
  settings? := none

end Holder

/-- The value of the variable after operations, by its value before them. -/
def assignedAfter :
    Option (List UInt8) →
    List Operation →
    Option (List UInt8)
  | assigned, [] => assigned
  | _, .assign value :: rest => assignedAfter value rest
  | assigned, .initialise :: rest => assignedAfter assigned rest
  | assigned, .ask :: rest => assignedAfter assigned rest

/-- The values of the variable at the initialisations among operations. -/
def seen :
    Option (List UInt8) →
    List Operation →
    List (Option (List UInt8))
  | _, [] => []
  | _, .assign value :: rest => seen value rest
  | assigned, .initialise :: rest => assigned :: seen assigned rest
  | assigned, .ask :: rest => seen assigned rest

/--
What operations on a fresh holder answer if one of the initialisations decides
what is told to those who ask behind it.
-/
structure Answers
    (assigned : Option (List UInt8))
    (operations : List Operation)
    (decisive? :
      List (Option (List UInt8)) → Option (Option (List UInt8))) :
    Prop where
  askBefore :
    ∀ earlier later,
      operations = earlier ++ .ask :: later →
        .initialise ∉ earlier →
          ((Holder.fresh assigned).responses operations)[earlier.length]? =
            some (.asked (.error .notInitialised))
  initialiseFirst :
    ∀ earlier later,
      operations = earlier ++ .initialise :: later →
        .initialise ∉ earlier →
          ((Holder.fresh assigned).responses operations)[earlier.length]? =
            some (.initialised (.ok ()))
  initialiseAgain :
    ∀ earlier later,
      operations = earlier ++ .initialise :: later →
        .initialise ∈ earlier →
          ((Holder.fresh assigned).responses operations)[earlier.length]? =
            some (.initialised (.error .initialisedTwice))
  askBehind :
    ∀ earlier later value,
      operations = earlier ++ .ask :: later →
        decisive? (seen assigned earlier) = some value →
          ((Holder.fresh assigned).responses operations)[earlier.length]? =
            some (.asked (.ok (value = some (Text.encode "1"))))

/-- No initialisation behind the first changes the settings that are held. -/
def LeavesSettings
    (assigned : Option (List UInt8))
    (operations : List Operation) :
    Prop :=
  ∀ earlier later,
    operations = earlier ++ .initialise :: later →
      .initialise ∈ earlier →
        ((Holder.fresh assigned).after (earlier ++ [.initialise])).settings? =
          ((Holder.fresh assigned).after earlier).settings?

/-- The settings report instructions exactly if the variable is the text `1`. -/
theorem ofVariable_eq (value : Option (List UInt8)) :
    ofVariable value = ⟨value = some (Text.encode "1")⟩ := by
  have sameText :
      (value.bind Text.decode? = some "1") ↔
        (value = some (Text.encode "1")) := by
    cases value with
    | none =>
        simp
    | some bytes =>
        simp [Text.decode?_eq_some_iff]
  simp [ofVariable, sameText]

namespace Holder

theorem responses_append
    (holder : Holder)
    (first second : List Operation) :
    holder.responses (first ++ second) =
      holder.responses first ++ (holder.after first).responses second := by
  induction first generalizing holder with
  | nil =>
      rfl
  | cons operation rest inductionHypothesis =>
      rw [List.cons_append, responses, responses, inductionHypothesis]
      rfl

theorem length_responses
    (holder : Holder)
    (operations : List Operation) :
    (holder.responses operations).length = operations.length := by
  induction operations generalizing holder with
  | nil =>
      rfl
  | cons operation rest inductionHypothesis =>
      rw [responses, List.length_cons, List.length_cons, inductionHypothesis]

/-- An operation answers by what is held when its turn comes. -/
theorem getElem?_responses
    (holder : Holder)
    (earlier later : List Operation)
    (operation : Operation) :
    (holder.responses (earlier ++ operation :: later))[earlier.length]? =
      some ((holder.after earlier).perform operation).1 := by
  have lengthAnswers := length_responses holder earlier
  rw [responses_append,
    List.getElem?_append_right (Nat.le_of_eq lengthAnswers), lengthAnswers,
    Nat.sub_self, responses]
  rfl

/-- The settings that are held come from the latest initialisation. -/
theorem settings?_after
    (holder : Holder)
    (operations : List Operation) :
    (holder.after operations).settings? =
      ((seen holder.assigned operations).getLast?.map ofVariable).or
        holder.settings? := by
  induction operations generalizing holder with
  | nil =>
      rfl
  | cons operation rest inductionHypothesis =>
      have next := inductionHypothesis (holder.perform operation).2
      cases operation with
      | assign value =>
          exact next
      | ask =>
          exact next
      | initialise =>
          have later :
              (holder.after (.initialise :: rest)).settings? =
                ((seen holder.assigned rest).getLast?.map ofVariable).or
                  (some (ofVariable holder.assigned)) :=
            next
          rw [later, seen, List.getLast?_cons]
          cases (seen holder.assigned rest).getLast? with
          | none =>
              rfl
          | some value =>
              rfl

end Holder

theorem seen_append
    (assigned : Option (List UInt8))
    (first second : List Operation) :
    seen assigned (first ++ second) =
      seen assigned first ++ seen (assignedAfter assigned first) second := by
  induction first generalizing assigned with
  | nil =>
      rfl
  | cons operation rest inductionHypothesis =>
      cases operation with
      | assign value =>
          exact inductionHypothesis value
      | initialise =>
          exact congrArg (assigned :: ·) (inductionHypothesis assigned)
      | ask =>
          exact inductionHypothesis assigned

theorem seen_eq_nil_iff
    {assigned : Option (List UInt8)}
    {operations : List Operation} :
    seen assigned operations = [] ↔ .initialise ∉ operations := by
  induction operations generalizing assigned with
  | nil =>
      simp [seen]
  | cons operation rest inductionHypothesis =>
      cases operation <;> simp [seen, inductionHypothesis]

theorem seen_ne_nil_iff
    {assigned : Option (List UInt8)}
    {operations : List Operation} :
    seen assigned operations ≠ [] ↔ .initialise ∈ operations := by
  rw [ne_eq, seen_eq_nil_iff, not_not]

theorem mem_seen_append
    {assigned value : Option (List UInt8)}
    {first : List Operation}
    (member : value ∈ seen assigned first)
    (second : List Operation) :
    value ∈ seen assigned (first ++ second) := by
  rw [seen_append]
  exact List.mem_append_left _ member

theorem settings?_after_fresh
    (assigned : Option (List UInt8))
    (operations : List Operation) :
    ((Holder.fresh assigned).after operations).settings? =
      (seen assigned operations).getLast?.map ofVariable := by
  rw [Holder.settings?_after]
  exact Option.or_none

/-- An initialisation takes the settings from the variable, misuse or not. -/
theorem settings?_after_initialise
    (assigned : Option (List UInt8))
    (operations : List Operation) :
    ((Holder.fresh assigned).after (operations ++ [.initialise])).settings? =
      some (ofVariable (assignedAfter assigned operations)) := by
  rw [settings?_after_fresh, seen_append, seen, seen, List.getLast?_concat,
    Option.map_some]

/-- The latest initialisation decides, whatever the ones before it have seen. -/
theorem answers_getLast?
    (assigned : Option (List UInt8))
    (operations : List Operation) :
    Answers assigned operations List.getLast? where
  askBefore := by
    rintro earlier later rfl noInitialise
    have nothing := settings?_after_fresh assigned earlier
    rw [seen_eq_nil_iff.mpr noInitialise] at nothing
    rw [Holder.getElem?_responses, Holder.perform, Holder.isTracing, nothing]
    rfl
  initialiseFirst := by
    rintro earlier later rfl noInitialise
    have nothing := settings?_after_fresh assigned earlier
    rw [seen_eq_nil_iff.mpr noInitialise] at nothing
    rw [Holder.getElem?_responses, Holder.perform, Holder.initialise, nothing]
    rfl
  initialiseAgain := by
    rintro earlier later rfl someInitialise
    have something := settings?_after_fresh assigned earlier
    have nonempty : seen assigned earlier ≠ [] :=
      seen_ne_nil_iff.mpr someInitialise
    rw [List.getLast?_eq_some_getLast nonempty] at something
    rw [Holder.getElem?_responses, Holder.perform, Holder.initialise, something]
    rfl
  askBehind := by
    rintro earlier later value rfl latest
    have settings := settings?_after_fresh assigned earlier
    rw [latest] at settings
    rw [Holder.getElem?_responses, Holder.perform, Holder.isTracing, settings,
      Option.map_some, ofVariable_eq]

/-- Initialisations all find what decides as the first of them did. -/
def SeesTheSame
    (assigned : Option (List UInt8))
    (operations : List Operation) :
    Prop :=
  ∀ first,
    (seen assigned operations).head? = some first →
      ∀ value ∈ seen assigned operations,
        value = some (Text.encode "1") ↔ first = some (Text.encode "1")

theorem ofVariable_eq_ofVariable_iff
    {first second : Option (List UInt8)} :
    ofVariable first = ofVariable second ↔
      (first = some (Text.encode "1") ↔ second = some (Text.encode "1")) := by
  rw [ofVariable_eq, ofVariable_eq, Settings.mk.injEq, decide_eq_decide]

/-- Where all initialisations see the same, any two take the same settings. -/
theorem SeesTheSame.ofVariable_eq
    {assigned : Option (List UInt8)}
    {operations : List Operation}
    (same : SeesTheSame assigned operations)
    {first second : Option (List UInt8)}
    (firstSeen : first ∈ seen assigned operations)
    (secondSeen : second ∈ seen assigned operations) :
    ofVariable first = ofVariable second := by
  obtain ⟨head, rest, shape⟩ :=
    List.exists_cons_of_ne_nil (List.ne_nil_of_mem firstSeen)
  have isHead : (seen assigned operations).head? = some head := by
    rw [shape, List.head?_cons]
  rw [ofVariable_eq_ofVariable_iff, same head isHead first firstSeen,
    same head isHead second secondSeen]

theorem SeesTheSame.leavesSettings
    {assigned : Option (List UInt8)}
    {operations : List Operation}
    (same : SeesTheSame assigned operations) :
    LeavesSettings assigned operations := by
  rintro earlier later rfl someInitialise
  have nonempty : seen assigned earlier ≠ [] :=
    seen_ne_nil_iff.mpr someInitialise
  have latestSeen :=
    mem_seen_append (List.getLast_mem nonempty) (.initialise :: later)
  have nextSeen :
      assignedAfter assigned earlier ∈
        seen assigned (earlier ++ .initialise :: later) := by
    rw [seen_append]
    exact List.mem_append_right _ List.mem_cons_self
  rw [settings?_after_initialise, settings?_after_fresh,
    List.getLast?_eq_some_getLast nonempty, Option.map_some,
    same.ofVariable_eq nextSeen latestSeen]

/-- Where all initialisations see the same, the first decides as the latest. -/
theorem SeesTheSame.answers_head?
    {assigned : Option (List UInt8)}
    {operations : List Operation}
    (same : SeesTheSame assigned operations) :
    Answers assigned operations List.head? := by
  have byLatest := answers_getLast? assigned operations
  refine ⟨byLatest.askBefore, byLatest.initialiseFirst,
    byLatest.initialiseAgain, ?_⟩
  rintro earlier later value rfl isFirst
  have nonempty : seen assigned earlier ≠ [] := by
    intro empty
    rw [empty] at isFirst
    cases isFirst
  have firstSeen :=
    mem_seen_append (List.mem_of_head? isFirst) (.ask :: later)
  have latestSeen :=
    mem_seen_append (List.getLast_mem nonempty) (.ask :: later)
  have agree :=
    ofVariable_eq_ofVariable_iff.mp (same.ofVariable_eq latestSeen firstSeen)
  rw [byLatest.askBehind earlier later _ rfl
    (List.getLast?_eq_some_getLast nonempty), decide_eq_decide.mpr agree]

theorem LeavesSettings.of_append
    {assigned : Option (List UInt8)}
    {first second : List Operation}
    (leaves : LeavesSettings assigned (first ++ second)) :
    LeavesSettings assigned first := by
  rintro earlier later rfl someInitialise
  exact leaves earlier (later ++ second) (by simp) someInitialise

/-- Settings that stay are settings that no initialisation would change. -/
theorem LeavesSettings.seesTheSame
    {assigned : Option (List UInt8)}
    {operations : List Operation}
    (leaves : LeavesSettings assigned operations) :
    SeesTheSame assigned operations := by
  induction operations using List.reverseRecOn with
  | nil =>
      intro first isFirst
      cases isFirst
  | append_singleton rest operation inductionHypothesis =>
      have same := inductionHypothesis leaves.of_append
      intro first isFirst value valueSeen
      rw [seen_append] at isFirst valueSeen
      cases operation with
      | assign assignment =>
          rw [seen, seen, List.append_nil] at isFirst valueSeen
          exact same first isFirst value valueSeen
      | ask =>
          rw [seen, seen, List.append_nil] at isFirst valueSeen
          exact same first isFirst value valueSeen
      | initialise =>
          rw [seen, seen] at isFirst valueSeen
          by_cases empty : seen assigned rest = []
          · rw [empty] at isFirst valueSeen
            obtain rfl := Option.some.inj isFirst
            obtain rfl := List.mem_singleton.mp valueSeen
            rfl
          · rw [List.head?_append_of_ne_nil _ empty] at isFirst
            -- The settings that stay are those that the latest one took.
            rcases List.mem_append.mp valueSeen with before | now
            · exact same first isFirst value before
            · obtain rfl := List.mem_singleton.mp now
              have someInitialise : Operation.initialise ∈ rest :=
                seen_ne_nil_iff.mp empty
              have left := leaves rest [] rfl someInitialise
              rw [settings?_after_initialise, settings?_after_fresh,
                List.getLast?_eq_some_getLast empty, Option.map_some] at left
              have latest :=
                ofVariable_eq_ofVariable_iff.mp (Option.some.inj left)
              exact latest.trans
                (same first isFirst _ (List.getLast_mem empty))

/--
The latest initialisation decides what is told to those who ask, and the first
one decides for good exactly if no other would have decided otherwise.
-/
theorem settings_decided_by_latest
    (assigned : Option (List UInt8))
    (operations : List Operation) :
    Answers assigned operations List.getLast? ∧
      (Answers assigned operations List.head? ∧
          LeavesSettings assigned operations ↔
        SeesTheSame assigned operations) := by
  refine ⟨answers_getLast? assigned operations, ?_, ?_⟩
  · rintro ⟨-, leaves⟩
    exact leaves.seesTheSame
  · intro same
    exact ⟨same.answers_head?, same.leavesSettings⟩

/-- A second initialisation, misuse though it is, takes the settings anew. -/
theorem settings_not_decided_by_first :
    ¬(Answers none
          [.assign (some (Text.encode "1")), .initialise, .assign none,
            .initialise, .ask]
          List.head? ∧
        LeavesSettings none
          [.assign (some (Text.encode "1")), .initialise, .assign none,
            .initialise, .ask]) := by
  rintro ⟨byFirst, -⟩
  have promised :=
    byFirst.askBehind
      [.assign (some (Text.encode "1")), .initialise, .assign none, .initialise]
      [] (some (Text.encode "1")) rfl rfl
  have answered : some (Response.asked (.ok false)) = _ := promised
  simp at answered

end EightBit.Settings
