import Depot.Cli.UsageError

namespace Depot.Cli

inductive Source where
  | byDefault
  | environment
  | commandLine
  deriving DecidableEq, Repr, Inhabited

def Source.rank : Source → Nat
  | .byDefault => 0
  | .environment => 1
  | .commandLine => 2

inductive ArgValue where
  | bool (b : Bool)
  | number (n : Nat)
  | text (s : String)
  deriving DecidableEq, Repr, Inhabited

structure Found where
  id : String
  source : Source
  value : ArgValue
  deriving Inhabited

def Found.explicit (f : Found) : Bool := f.source != .byDefault

inductive Written where
  | short
  | long
  | position
  | environment
  deriving DecidableEq, Repr, Inhabited

structure Reading where
  found : List Found := []
  pending : Option (ArgSpec × Written × List String) := none
  awaiting : Bool := false
  positions : Nat := 0
  trailing : Bool := false
  deriving Inhabited

namespace Reading

def get? (r : Reading) (id : String) : Option Found := r.found.find? (·.id == id)

def has (r : Reading) (id : String) : Bool := (r.get? id).isSome

def record (r : Reading) (f : Found) : Reading :=
  { r with found := r.found.filter (·.id != f.id) ++ [f] }

def explicit (r : Reading) : List Found := r.found.filter (·.explicit)

end Reading

structure Context where
  level : Level
  env : Env

def accumulate (limit : Nat) (tooBig : String) : Nat → List Char → Except String Nat
  | n, [] => .ok n
  | n, c :: cs =>
    if !c.isDigit then .error "invalid digit found in string"
    else
      let m := 10 * n + (c.toNat - 48)
      if m > limit then .error tooBig else accumulate limit tooBig m cs

def readSize (s : String) : Except String Nat :=
  let digits := match s.toList with
    | ['+'] => ['+']
    | '+' :: r => r
    | r => r
  if s.isEmpty then .error "cannot parse integer from empty string"
  else accumulate (Nat.pow 2 64 - 1) "number too large to fit in target type" 0 digits

def readSigned (s : String) : Except String Int :=
  let (negative, digits) := match s.toList with
    | ['+'] => (false, ['+'])
    | ['-'] => (false, ['-'])
    | '+' :: r => (false, r)
    | '-' :: r => (true, r)
    | r => (false, r)
  if s.isEmpty then .error "cannot parse integer from empty string"
  else if negative then
    (accumulate (Nat.pow 2 63) "number too small to fit in target type" 0 digits).map fun n => -(n : Int)
  else (accumulate (Nat.pow 2 63 - 1) "number too large to fit in target type" 0 digits).map fun n => (n : Int)

def readValue (l : Level) (a : ArgSpec) (raw : String) : Except UsageError ArgValue :=
  match a.valueType with
  | .text => .ok (.text raw)
  | .path =>
    if raw.isEmpty then .error (UsageError.invalidValue l a.shown "" []) else .ok (.text raw)
  | .bool =>
    if raw == "true" then .ok (.bool true)
    else if raw == "false" then .ok (.bool false)
    else .error (UsageError.invalidValue l a.shown raw ["true", "false"])
  | .size =>
    match readSize raw with
    | .ok n => .ok (.number n)
    | .error why => .error (UsageError.valueValidation l a.shown raw why)
  | .count =>
    match readSigned raw with
    | .ok i =>
      if 0 ≤ i && i ≤ 255 then .ok (.number i.toNat)
      else .error (UsageError.valueValidation l a.shown (toString i) (toString i ++ " is not in 0..=255"))
    | .error why => .error (UsageError.valueValidation l a.shown raw why)

def countOf (r : Reading) (id : String) : Nat :=
  match r.get? id with
  | some ⟨_, _, .number n⟩ => n
  | _ => 0

def settle (c : Context) (r : Reading) (a : ArgSpec) (how : Written) (words : List String)
    (source : Source) : Except UsageError Reading :=
  let l := c.level
  match a.action with
  | .help => .error (UsageError.help c.env l (how == .long))
  | .version => .error (UsageError.version l)
  | .value _ =>
    if source == .commandLine && words.isEmpty then
      .error (UsageError.invalidValue l a.shown "" (if a.valueType == .bool then ["true", "false"] else []))
    else if r.has a.id then .error (UsageError.givenTwice l a)
    else do
      let v ← readValue l a (words.headD "")
      pure (r.record ⟨a.id, source, v⟩)
  | .flag =>
    if r.has a.id then .error (UsageError.givenTwice l a)
    else do
      let v ← readValue l a (words.headD "true")
      pure (r.record ⟨a.id, source, v⟩)
  | .count => do
    let raw := words.headD (toString (min 255 (countOf r a.id + 1)))
    let v ← readValue l a raw
    pure (r.record ⟨a.id, source, v⟩)

def resolvePending (c : Context) (r : Reading) : Except UsageError Reading :=
  match r.pending with
  | none => .ok r
  | some (a, how, words) => settle c { r with pending := none } a how words .commandLine

def react (c : Context) (r : Reading) (a : ArgSpec) (how : Written) (words : List String)
    (source : Source) : Except UsageError Reading := do
  let r ← resolvePending c r
  let r ← settle c r a how words source
  pure { r with awaiting := false }

def await (c : Context) (r : Reading) (a : ArgSpec) (how : Written) : Except UsageError Reading := do
  let r ← resolvePending c r
  pure { r with pending := some (a, how, []), awaiting := true }

def usedArgs (l : Level) (r : Reading) : List ArgSpec := r.explicit.filterMap fun f => l.find f.id

def unknownLong (l : Level) (r : Reading) (name : String) (rest : List String) : UsageError :=
  let own := closest name l.longs
  let below : Option (String × String) :=
    if own.isSome then none
    else
      let hits := l.commands.filterMap fun e =>
        match closest name e.longs, rest.idxOf? e.name with
        | some n, some i => some (i, e.name, n)
        | _, _ => none
      match hits with
      | [] => none
      | h :: hs =>
        let best := hs.foldl (fun b x => if x.1 < b.1 then x else b) h
        some best.2
  let suggested := (own.bind l.findLong).toList.filter fun a => !r.has a.id
  let tips :=
    (own.map fun n => "a similar argument exists: '--" ++ n ++ "'").toList ++
    (if own.isNone && below.isNone && !r.trailing && !l.positionals.isEmpty then
      [UsageError.asValueTip ("--" ++ name)] else []) ++
    (below.map fun (cmd, n) => "'" ++ cmd ++ " --" ++ n ++ "' exists").toList
  UsageError.unexpected l ("--" ++ name) tips (usedArgs l r ++ suggested)

def longWord (c : Context) (r : Reading) (body : String) (rest : List String) :
    Except UsageError Reading :=
  let l := c.level
  let (name, value) := match body.splitOn "=" with
    | [] => ("", none)
    | [n] => (n, none)
    | n :: vs => (n, some ("=".intercalate vs))
  match l.findLong name with
  | some a =>
    if a.takesValue then
      match value with
      | some v => react c r a .long [v] .commandLine
      | none => await c r a .long
    else
      match value with
      | some v => .error (UsageError.unexpectedValue l a v (usedArgs l r ++ [a]))
      | none => react c r a .long [] .commandLine
  | none => .error (unknownLong l r name rest)

def shortLetters (c : Context) : Reading → List Char → Except UsageError Reading
  | r, [] => .ok r
  | r, x :: xs =>
    let l := c.level
    match l.findShort x with
    | some a =>
      if a.takesValue then
        if xs.isEmpty then await c r a .short
        else
          let v := match xs with
            | '=' :: v => v
            | v => v
          react c r a .short [String.ofList v] .commandLine
      else do
        let r ← react c r a .short [] .commandLine
        shortLetters c r xs
    | none =>
      let word := "-" ++ x.toString
      .error (UsageError.unexpected l word
        (if !r.trailing && !l.positionals.isEmpty then [UsageError.asValueTip word] else []) [])

def strayWord (l : Level) (r : Reading) (word : String) : UsageError :=
  if r.trailing && l.hasCommand word then UsageError.commandAfterEscape l word
  else if !l.commands.isEmpty then
    UsageError.unknownCommand l word (similarTo word (l.commands.map (·.name)))
  else UsageError.unexpected l word [] []

def positional (c : Context) (r : Reading) (word : String) : Except UsageError Reading :=
  match c.level.positionals[r.positions]? with
  | some p => do
    let r ← resolvePending c r
    pure { r with pending := some (p, .position, [word]), positions := r.positions + 1, awaiting := false }
  | none => .error (strayWord c.level r word)

def scan (c : Context) : List String → Reading → Except UsageError (Reading × Option (String × List String))
  | [], r => .ok (r, none)
  | w :: rest, r =>
    if r.trailing then do scan c rest (← positional c r w)
    else if !r.awaiting && c.level.hasCommand w then .ok (r, some (w, rest))
    else if w == "--" then scan c rest { r with trailing := true }
    else if w.startsWith "--" then do scan c rest (← longWord c r (w.drop 2).toString rest)
    else if w.startsWith "-" && w != "-" then do scan c rest (← shortLetters c r (w.toList.drop 1))
    else if r.awaiting then
      match r.pending with
      | some (a, how, ws) => scan c rest { r with pending := some (a, how, ws ++ [w]), awaiting := false }
      | none => do scan c rest (← positional c r w)
    else do scan c rest (← positional c r w)

def addEnv (c : Context) (r : Reading) : Except UsageError Reading :=
  c.level.args.foldlM (fun r a =>
    if r.has a.id then pure r
    else match a.env.bind c.env.lookup with
      | some v => settle c r a .environment [v] .environment
      | none => pure r) r

def addDefaults (l : Level) (r : Reading) : Reading :=
  l.args.foldl (fun r a =>
    if r.has a.id then r
    else match a.action with
      | .flag => r.record ⟨a.id, .byDefault, .bool false⟩
      | .count => r.record ⟨a.id, .byDefault, .number 0⟩
      | .value _ =>
        match a.default.map (readValue l a) with
        | some (.ok v) => r.record ⟨a.id, .byDefault, v⟩
        | _ => r
      | _ => r) r

def conflicting (a b : ArgSpec) : Bool := a.conflicts.contains b.id || b.conflicts.contains a.id

def validate (c : Context) (r : Reading) (hasCommand : Bool) : Except UsageError Unit := do
  let l := c.level
  let given := usedArgs l r
  if !l.commands.isEmpty && !hasCommand then
    if given.isEmpty then throw (UsageError.helpOnMissing c.env l) else throw (UsageError.missingCommand l)
  for a in given do
    let others := given.filter fun b => b.id != a.id && conflicting a b
    if !others.isEmpty then
      throw (UsageError.conflict l a others (given.filter fun b => !others.any (·.id == b.id)))

def finish (c : Context) (r : Reading) (hasCommand : Bool) : Except UsageError (List Found) := do
  let r ← resolvePending c r
  let r ← addEnv c r
  let r := addDefaults c.level r
  validate c r hasCommand
  pure r.found

def merge (shared : List String) (top below : List Found) : List Found :=
  let settled := shared.filterMap fun id =>
    match top.find? (·.id == id), below.find? (·.id == id) with
    | some t, some b => some (if t.source.rank > b.source.rank then t else b)
    | some t, none => some t
    | none, some b => some b
    | none, none => none
  below.filter (fun f => !shared.contains f.id) ++ settled

end Depot.Cli
