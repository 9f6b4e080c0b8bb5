import EightBit.Text.Encoding

namespace EightBit

/-!
# Settings from the environment

The variable `LS8_TRACE` turns the report of every instruction on. It is looked
at when the settings are initialised; changes of the variable after that have no
effect. Initialising twice, and asking before the first time, are mistakes of
the caller.
-/

/-- What the environment decides. -/
structure Settings where
  /-- Whether every instruction is reported. -/
  tracing : Bool
  deriving Repr, DecidableEq

namespace Settings

/-- Name of the variable that turns the report of every instruction on. -/
def traceVariable : String :=
  "LS8_TRACE"

/-- The settings that follow from the bytes of the variable, if it is set. -/
def ofVariable (value : Option (List UInt8)) : Settings where
  tracing :=
    value.bind Text.decode? = some "1"

/-- A mistake in the order of initialising settings and asking for them. -/
inductive Misuse where
  | initialisedTwice
  | notInitialised
  deriving Repr, DecidableEq

/-- The wording of a misuse. -/
def Misuse.message : Misuse → String
  | .initialisedTwice =>
      "tried to initialize environment state multiple times"
  | .notInitialised =>
      "tried to access environment state before initialization"

/-- A variable of the environment, and the settings once they are initialised. -/
structure Holder where
  assigned : Option (List UInt8)
  settings? : Option Settings
  deriving Repr, DecidableEq

namespace Holder

/-- Before anything is set or initialised. -/
def initial : Holder where
  assigned := none
  settings? := none

/-- Give the variable a value, or unset it. -/
def assign
    (holder : Holder)
    (value : Option (List UInt8)) :
    Holder :=
  { holder with assigned := value }

/--
Take the settings from the variable as it is now. The settings are taken even
where this is a misuse because there were some before.
-/
def initialise (holder : Holder) : Except Misuse Unit × Holder :=
  (match holder.settings? with
    | none => .ok ()
    | some _ => .error .initialisedTwice,
    { holder with settings? := some (ofVariable holder.assigned) })

/-- Whether every instruction is reported, as the settings have it. -/
def isTracing (holder : Holder) : Except Misuse Bool :=
  match holder.settings? with
  | none => .error .notInitialised
  | some settings => .ok settings.tracing

end Holder

end Settings

end EightBit
