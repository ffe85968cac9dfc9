import Depot.Error
import Depot.Text.Fill

namespace Depot.Cli

open Depot.Text

def reportWidth : Nat := 198

def renderReport (e : Error) : String :=
  let causes := e.chain.drop 1
  let n := causes.length
  "Error: " ++ e.code ++ "\n\n" ++
    fill reportWidth "  x " "  | " e.message ++ "\n" ++
    String.join (causes.zipIdx.map fun (c, i) =>
      let last := i + 1 == n
      fill reportWidth (if last then "  `-> " else "  |-> ") (if last then "      " else "  |   ") c ++ "\n") ++
    (match e.help? with
      | some h => fill reportWidth "  help: " "        " h ++ "\n"
      | none => "") ++
    "\n"

end Depot.Cli
