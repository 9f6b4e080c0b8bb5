namespace EightBit

/-!
# Sinks for program output

A sink keeps the bytes it has accepted. It either accepts everything, or a
fixed number of bytes in total and then fails. A write that does not fit leaves
behind the part that did.
-/

/-- Why a sink refuses a byte. -/
inductive WriteFailure where
  | brokenPipe
  | permissionDenied
  | writeZero
  deriving Repr, DecidableEq

/-- A bound on what a sink accepts, and what happens beyond it. -/
structure SinkLimit where
  capacity : Nat
  failure : WriteFailure
  deriving Repr, DecidableEq

/-- A receiver of program output. -/
structure Sink where
  accepted : List UInt8
  limit : Option SinkLimit
  deriving Repr, DecidableEq

namespace Sink

/-- A fresh sink that accepts everything. -/
def unlimited : Sink where
  accepted := []
  limit := none

/-- A fresh sink that accepts a number of bytes in total and then fails. -/
def limited
    (capacity : Nat)
    (failure : WriteFailure) :
    Sink where
  accepted := []
  limit := some ⟨capacity, failure⟩

/-- Whether a sink still has room for a number of bytes. -/
def hasRoom
    (sink : Sink)
    (count : Nat) :
    Bool :=
  match sink.limit with
  | none => true
  | some limit => count ≤ limit.capacity - sink.accepted.length

/-- The longest part in front of some bytes that a sink still accepts. -/
def fitting
    (sink : Sink)
    (bytes : List UInt8) :
    List UInt8 :=
  match sink.limit with
  | none => bytes
  | some limit => bytes.take (limit.capacity - sink.accepted.length)

/-- What a sink says of a write of some bytes. -/
def verdict
    (sink : Sink)
    (bytes : List UInt8) :
    Except WriteFailure Unit :=
  match sink.limit with
  | none => .ok ()
  | some limit =>
      if sink.hasRoom bytes.length then
        .ok ()
      else
        .error limit.failure

/--
Write all of the given bytes: the result says whether the sink accepted them,
and the sink keeps the longest part in front that fits.
-/
def write
    (sink : Sink)
    (bytes : List UInt8) :
    Except WriteFailure Unit × Sink :=
  (sink.verdict bytes,
    { sink with accepted := sink.accepted ++ sink.fitting bytes })

@[simp] theorem write_limit
    (sink : Sink)
    (bytes : List UInt8) :
    (sink.write bytes).2.limit = sink.limit :=
  rfl

/-- A write adds behind what was accepted before the part that fits. -/
@[simp] theorem write_accepted
    (sink : Sink)
    (bytes : List UInt8) :
    (sink.write bytes).2.accepted = sink.accepted ++ sink.fitting bytes :=
  rfl

theorem fitting_of_hasRoom
    {sink : Sink}
    {bytes : List UInt8}
    (room : sink.hasRoom bytes.length) :
    sink.fitting bytes = bytes := by
  unfold hasRoom at room
  unfold fitting
  split <;> simp_all [List.take_of_length_le]

/-- A write succeeds exactly where there is room for all of its bytes. -/
theorem verdict_eq_ok_iff
    {sink : Sink}
    {bytes : List UInt8} :
    sink.verdict bytes = .ok () ↔ sink.hasRoom bytes.length := by
  unfold verdict
  split
  · simp [hasRoom, *]
  · split <;> simp_all

/-- A sink without limit accepts every write in full. -/
theorem write_of_no_limit
    {sink : Sink}
    (noLimit : sink.limit = none)
    (bytes : List UInt8) :
    sink.write bytes =
      (.ok (), { sink with accepted := sink.accepted ++ bytes }) := by
  simp [write, verdict, fitting, noLimit]

/-- A sink without limit refuses nothing. -/
theorem verdict_of_no_limit
    {sink : Sink}
    (noLimit : sink.limit = none)
    (bytes : List UInt8) :
    sink.verdict bytes = .ok () :=
  congrArg Prod.fst (write_of_no_limit noLimit bytes)

/-- There is always room for nothing. -/
@[simp] theorem verdict_nil (sink : Sink) :
    sink.verdict [] = .ok () := by
  rw [verdict_eq_ok_iff]
  unfold hasRoom
  split <;> simp

theorem fitting_prefix
    (sink : Sink)
    (bytes : List UInt8) :
    sink.fitting bytes <+: bytes := by
  unfold fitting
  split
  · exact List.prefix_refl bytes
  · exact List.take_prefix _ bytes

/-- Writing nothing leaves a sink as it is. -/
@[simp] theorem write_nil_sink (sink : Sink) :
    (sink.write []).2 = sink := by
  have nothing : sink.fitting [] = [] :=
    List.prefix_nil.mp (sink.fitting_prefix [])
  simp [write, nothing]

/-- A write fails exactly where a limit leaves no room for all of its bytes. -/
theorem verdict_eq_error_iff
    {sink : Sink}
    {bytes : List UInt8}
    {failure : WriteFailure} :
    sink.verdict bytes = .error failure ↔
      ∃ limit,
        sink.limit = some limit ∧
          limit.failure = failure ∧
          limit.capacity - sink.accepted.length < bytes.length := by
  unfold verdict hasRoom
  cases sink.limit with
  | none =>
      simp
  | some limit =>
      by_cases room :
          bytes.length ≤ limit.capacity - sink.accepted.length
      · simp [room]
      · simp [room, Nat.lt_of_not_le room]

/-- A write that fails leaves some of its bytes behind. -/
theorem fitting_ne_of_verdict_eq_error
    {sink : Sink}
    {bytes : List UInt8}
    {failure : WriteFailure}
    (refused : sink.verdict bytes = .error failure) :
    sink.fitting bytes ≠ bytes := by
  obtain ⟨limit, limited, reason, tight⟩ := verdict_eq_error_iff.mp refused
  intro whole
  have kept := congrArg List.length whole
  simp only [fitting, limited, List.length_take] at kept
  omega

/-- A write that failed fails again, and then the sink keeps nothing of it. -/
theorem write_of_verdict_eq_error
    {sink : Sink}
    {bytes : List UInt8}
    {failure : WriteFailure}
    (refused : sink.verdict bytes = .error failure) :
    (sink.write bytes).2.write bytes =
      (.error failure, (sink.write bytes).2) := by
  obtain ⟨limit, limited, reason, tight⟩ := verdict_eq_error_iff.mp refused
  have full :
      limit.capacity - (sink.write bytes).2.accepted.length = 0 := by
    simp only [write_accepted, fitting, limited, List.length_append,
      List.length_take]
    omega
  have again : (sink.write bytes).2.verdict bytes = .error failure :=
    verdict_eq_error_iff.mpr ⟨limit, limited, reason, by omega⟩
  have nothing : (sink.write bytes).2.fitting bytes = [] := by
    simp only [fitting, write_limit, limited, full, List.take_zero]
  rw [write, again, nothing, List.append_nil]

end Sink

end EightBit
