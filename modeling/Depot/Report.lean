import Depot.Error

namespace Depot

structure Logger where
  verbose : Nat := 0
  quiet : Bool := false
  deriving DecidableEq, Repr, Inhabited

namespace Logger

def info (l : Logger) (message : String) : List String :=
  if l.quiet then [] else [message]

def detail (l : Logger) (level : Nat) (message : String) : List String :=
  if !l.quiet && level ≤ l.verbose then [message] else []

def warn (l : Logger) (message : String) : List String :=
  l.info ("WARNING: " ++ message)

def error (_ : Logger) (message : String) : List String :=
  ["ERROR: " ++ message]

end Logger

structure Report where
  errors : List Error := []
  warnings : List String := []
  deriving Inhabited

namespace Report

def error (r : Report) (e : Error) : Report := { r with errors := r.errors ++ [e] }

def warn (r : Report) (w : String) : Report := { r with warnings := r.warnings ++ [w] }

def collect {α : Type} (r : Report) : Except Error α → Option α × Report
  | .ok a => (some a, r)
  | .error e => (none, r.error e)

def extend (r other : Report) : Report :=
  ⟨r.errors ++ other.errors, r.warnings ++ other.warnings⟩

def hasErrors (r : Report) : Bool := !r.errors.isEmpty

def isEmpty (r : Report) : Bool := r.errors.isEmpty && r.warnings.isEmpty

def lines (r : Report) (l : Logger) : List String :=
  r.warnings.flatMap l.warn ++
    if r.errors.isEmpty then []
    else l.error (toString r.errors.length ++ " errors encountered:") ++
      r.errors.flatMap fun e => l.error e.chainMessage

end Report

end Depot
