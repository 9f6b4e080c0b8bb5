import EightBit.Proofs.CommandLine.RunSession

namespace EightBit

/-!
# The lines of the front end

What the front end says of its progress, as the text that an operator reads where
there are no colors. Each line is a verb, aligned to the right, and what it is about.
-/

/-- Without colors a message is its verb, aligned to the right, and its subject. -/
theorem Console.message_of_plain
    {verb aligned : String}
    (ends : Style.alignRight verbWidth verb.toList = aligned.toList)
    (color : Color)
    (subject : String) :
    (Console.mk false false).message color verb subject =
      aligned ++ " " ++ subject ++ "\n" := by
  simp [message, status, paint, ends]

namespace Session

/-- The line in front of loading. -/
def loadingLine (path : String) : String :=
  "     Loading target " ++ path ++ "\n"

/-- The line in front of a run. -/
def runningLine (image : Image) : String :=
  "     Running " ++ toString image.bytes.length ++ " byte image\n"

/-- The line behind a run that has come to its end, by the reason of the halt. -/
def haltLine : Halt → String
  | .instruction =>
      "      Halted HLT reached\n"
  | .unknownOpcode _ address =>
      "     Stopped unknown instruction at 0x" ++
        String.ofList (Numeral.writePadded 16 2 address) ++ "\n"

/-- The last line of a run that has come to its end. -/
def completedLine (path : String) : String :=
  "   Completed target " ++ path ++ "\n"

theorem fileMessage_of_plain
    {verb aligned : String}
    (ends : Style.alignRight Console.verbWidth verb.toList = aligned.toList)
    (path : String) :
    fileMessage ⟨false, false⟩ verb path =
      aligned ++ " " ++ "target " ++ path ++ "\n" := by
  rw [fileMessage, Console.message_of_plain ends, ← String.append_assoc]

theorem fileMessage_loading (path : String) :
    fileMessage ⟨false, false⟩ "Loading" path = loadingLine path :=
  @fileMessage_of_plain "Loading" "     Loading" (by decide) path

theorem fileMessage_completed (path : String) :
    fileMessage ⟨false, false⟩ "Completed" path = completedLine path :=
  @fileMessage_of_plain "Completed" "   Completed" (by decide) path

/-- A message that starts with the number of bytes of an image. -/
theorem message_length_of_plain
    {verb aligned : String}
    (ends : Style.alignRight Console.verbWidth verb.toList = aligned.toList)
    (image : Image)
    (text : String) :
    (Console.mk false false).message .green verb
        (decimal image.length ++ text) =
      aligned ++ " " ++ toString image.bytes.length ++ (text ++ "\n") := by
  rw [Console.message_of_plain ends, decimal_eq_toString, Image.length]
  simp only [String.append_assoc]

theorem message_running (image : Image) :
    (Console.mk false false).message .green "Running"
        (decimal image.length ++ " byte image") =
      runningLine image :=
  @message_length_of_plain "Running" "     Running" (by decide) image _

theorem endingMessage_halted (halt : Halt) :
    endingMessage ⟨false, false⟩ (.halted halt) = haltLine halt := by
  unfold endingMessage haltLine
  cases halt with
  | instruction =>
      exact @Console.message_of_plain "Halted" "      Halted" (by decide) _ _
  | unknownOpcode opcode address =>
      simp only
      rw [@Console.message_of_plain "Stopped" "     Stopped" (by decide),
        ← String.append_assoc]
      rfl

end Session

end EightBit
