import Depot.Error
import Depot.Text.Space

namespace Depot

class Confirm (γ : Type) where
  ask : γ → String → Except Error Bool × γ

structure AutoConfirm where
  deriving Inhabited

instance : Confirm AutoConfirm where
  ask c _ := (.ok true, c)

structure ScriptedConfirm where
  answers : List Bool := []
  asked : List String := []
  deriving Inhabited

instance : Confirm ScriptedConfirm where
  ask c q := (.ok (c.answers.headD false), { answers := c.answers.tail, asked := c.asked ++ [q] })

structure TerminalConfirm where
  input : List Char := []
  output : String := ""
  deriving Inhabited

namespace TerminalConfirm

def readLine (input : List Char) : List Char × List Char :=
  let line := input.takeWhile (· != '\n')
  if line.length < input.length then (line ++ ['\n'], input.drop (line.length + 1))
  else (line, [])

def isYes (answer : String) : Bool :=
  let a := String.ofList ((Text.trimWhite answer).toList.map Char.toLower)
  a == "y" || a == "yes"

end TerminalConfirm

instance : Confirm TerminalConfirm where
  ask c q :=
    let (line, rest) := TerminalConfirm.readLine c.input
    (.ok (TerminalConfirm.isYes (String.ofList line)), { input := rest, output := c.output ++ q ++ " [y/N] " })

end Depot
