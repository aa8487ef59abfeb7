import KeyIntern.Command.Grammar
import KeyIntern.Command.Similarity

/-! # Reading a command line

The first argument names a subcommand, and the arguments after it are its options. Reading
stops at the first argument that asks for help or does not fit, and reading a subcommand's
options is done left to right:

* `--name=value` gives an option with a value; `--name` gives an option without one, or one
  whose value is the next argument when it takes a value;
* `-abc` gives the options of the short names `a`, `b` and `c` in turn;
* `--` makes every later argument a plain word, and a plain word where no value is awaited
  does not fit, since no subcommand takes words of its own;
* an option that takes a value is settled when the next option is given, or at the end: only
  then is a missing value, a repeated option or an empty path found. An unknown option is
  complained about even when the option before it lacks its value.

A complaint about an unknown name offers the close names. A complaint about an option shows a
usage line with the options given so far, when there are any.

Main statement: `readCommandLine_nil`, an empty command line prints the help as a complaint.
-/

namespace KeyIntern.Command

/-- How reading a command line ends without a subcommand to run. -/
inductive Stop where
  /-- Help was asked for: printed on standard output, and the program succeeds. -/
  | help (text : String)
  /-- The command line does not fit, or names no subcommand: printed on standard error, and the
  program fails. -/
  | misuse (text : String)
  deriving DecidableEq, Repr

/-- The options of a subcommand read so far. -/
structure Given where
  /-- The options settled, with their values, in the order each was first given. -/
  values : List (String × List String)
  /-- An option that takes a value, with the values it got, not yet settled. -/
  pending : Option (Flag × List String)
  /-- Whether the next argument is the pending option's value. -/
  awaiting : Bool
  /-- Whether `--` was given: every later argument is a plain word. -/
  escaped : Bool

/-- A subcommand to run, with the values of its options. -/
structure Invocation where
  command : Subcommand
  values : List (String × List String)

/-- The values given to an option of an invocation, in order. -/
def Invocation.valuesOf (i : Invocation) (long : String) : List String :=
  (i.values.filter (·.1 == long)).flatMap (·.2)

/-- Whether an option of an invocation was given. -/
def Invocation.has (i : Invocation) (long : String) : Bool :=
  i.values.any (·.1 == long)

namespace Given

/-- Nothing read yet. -/
def empty : Given := ⟨[], none, false, false⟩

/-- Whether an option was settled. -/
def has (g : Given) (long : String) : Bool :=
  g.values.any (·.1 == long)

/-- Adds values to an option, which keeps its place when it was given before. -/
def add (g : Given) (long : String) (vs : List String) : Given :=
  if g.has long then
    { g with values := g.values.map fun (n, old) => if n == long then (n, old ++ vs) else (n, old) }
  else { g with values := g.values ++ [(long, vs)] }

/-- The options settled, as flags of the subcommand. -/
def flags (g : Given) (s : Subcommand) : List Flag :=
  g.values.filterMap fun (n, _) => s.flags.find? (·.long == n)

end Given

/-- The name and the value of `name=value`; a name alone has no value. -/
def splitAtEquals (body : List Char) : String × Option String :=
  let name := String.ofList (body.takeWhile (· != '='))
  match body.dropWhile (· != '=') with
  | [] => (name, none)
  | _ :: value => (name, some (String.ofList value))

section Options

variable (p : Program) (s : Subcommand)

/-- A complaint as a stop. -/
def complain (c : Complaint) : Except Stop α :=
  .error (.misuse c.text)

/-- Settles an option with its values. -/
def record (g : Given) (f : Flag) (vals : List String) : Except Stop Given :=
  match f.action with
  | .help => .error (.help (p.subHelp s))
  | .switch =>
    if g.has f.long then complain (Complaint.repeated f (p.subUsage s []))
    else .ok (g.add f.long ["true"])
  | .single | .repeated =>
    if vals.isEmpty then complain (Complaint.missingValue f)
    else if f.action == .single && g.has f.long then complain (Complaint.repeated f (p.subUsage s []))
    else if f.kind == .path && vals.contains "" then complain (Complaint.missingValue f)
    else .ok (g.add f.long vals)

/-- Settles the pending option, if any. -/
def settle (g : Given) : Except Stop Given :=
  match g.pending with
  | none => .ok g
  | some (f, vals) => record p s { g with pending := none } f vals

/-- Settles the pending option, dropping it when it does not settle. -/
def settleQuietly (g : Given) : Given :=
  match settle p s g with
  | .ok g' => g'
  | .error _ => { g with pending := none }

/-- Gives an option with its values, the pending option settled first. -/
def give (g : Given) (f : Flag) (vals : List String) : Except Stop Given := do
  let g ← settle p s g
  record p s g f vals

/-- A complaint about an argument that fits nowhere in the subcommand. -/
def strayArgument (arg : String) : Except Stop α :=
  complain (Complaint.unexpected arg (p.subUsage s []))

/-- Reads a run of short names. -/
def readShorts (g : Given) : List Char → Except Stop Given
  | [] => .ok g
  | c :: cs =>
    match s.flags.find? (·.short == some c) with
    | some f => do
      let g ← give p s g f []
      readShorts g cs
    | none => strayArgument p s ("-" ++ String.singleton c)

/-- The complaint about an unknown long option, offering the closest one. -/
def unknownOption (g : Given) (name : String) : Except Stop α :=
  let g := settleQuietly p s g
  let closest := closestName name (s.flags.map (·.long))
  let offered := (closest.bind fun n => s.flags.find? (·.long == n)).filter fun f => !g.has f.long
  complain { message := "unexpected argument '--" ++ name ++ "' found",
             similar := closest.map fun n => ("argument", ["--" ++ n]),
             usage := some (p.subUsage s (g.flags s ++ offered.toList)) }

/-- Reads the options of a subcommand. -/
def readOptions (g : Given) : List String → Except Stop Given
  | [] => settle p s g
  | a :: rest =>
    if g.escaped then strayArgument p s a
    else if a == "--" then readOptions { g with escaped := true } rest
    else if a.startsWith "--" then
      let (name, value) := splitAtEquals (a.toList.drop 2)
      match s.flags.find? (·.long == name), value with
      | some f, some v =>
        if f.takesValue then do
          let g ← give p s g f [v]
          readOptions { g with awaiting := false } rest
        else
          let used := g.flags s ++ (if g.has f.long then [] else [f])
          complain (Complaint.unwantedValue v f (p.subUsage s used))
      | some f, none =>
        if f.takesValue then do
          let g ← settle p s g
          readOptions { g with pending := some (f, []), awaiting := true } rest
        else do
          let g ← give p s g f []
          readOptions { g with awaiting := false } rest
      | none, _ => unknownOption p s g name
    else if a.startsWith "-" && a != "-" then do
      let g ← readShorts p s g (a.toList.drop 1)
      readOptions { g with awaiting := false } rest
    else
      match g.awaiting, g.pending with
      | true, some (f, vals) => readOptions { g with pending := some (f, vals ++ [a]), awaiting := false } rest
      | _, _ => strayArgument p s a

end Options

section Program

variable (p : Program)

/-- What the built-in `help` subcommand prints for the names after it. -/
def helpCommand : List String → Stop
  | [] => .help p.help
  | n :: more =>
    if n == "help" then
      match more with
      | [] => .help p.helpHelp
      | m :: _ => .misuse (Complaint.unknownCommand m p.helpUsage none).text
    else
      match p.find? n, more with
      | some s, [] => .help (p.subHelp s)
      | some s, m :: _ => .misuse (Complaint.unknownCommand m (p.subUsage s []) (some "--help")).text
      | none, _ => .misuse (Complaint.unknownCommand n (p.usage []) (some "--help")).text

/-- The complaint about a word that names no subcommand; `escaped` says it came after `--`. -/
def strayCommand (word : String) (escaped : Bool) : Stop :=
  if escaped && p.commandNames.contains word then
    .misuse { message := "unexpected argument '" ++ word ++ "' found",
              tips := ["subcommand '" ++ word ++ "' exists; to use it, remove the '--' before it"],
              usage := some (p.usage []) : Complaint }.text
  else
    match similarNames word p.commandNames with
    | [] => .misuse (Complaint.unknownCommand word (p.usage []) (some "--help")).text
    | names => .misuse { message := "unrecognized subcommand '" ++ word ++ "'",
                         similar := some ("subcommand", names),
                         usage := some (p.usage []) : Complaint }.text

/-- The subcommand options close to `name`, each with the position where its subcommand is
named in `rest`. -/
def laterOffers (name : String) (rest : List String) : List (Nat × String × String) :=
  p.subcommands.filterMap fun s => do
    let n ← closestName name (s.flags.map (·.long))
    let i ← rest.idxOf? s.name
    pure (i, s.name, n)

/-- The complaint about a long option before the subcommand, or the help when it is the
program's own option, which prints help. Close options of the program are offered first, then close options of a subcommand named later, the earliest named. -/
def strayOption (name : String) (value : Option String) (rest : List String) : Stop :=
  match p.flags.find? (·.long == name), value with
  | some _, none => .help p.help
  | some f, some v => .misuse (Complaint.unwantedValue v f (p.usage [f])).text
  | none, _ =>
    let message := "unexpected argument '--" ++ name ++ "' found"
    match closestName name (p.flags.map (·.long)) with
    | some n =>
      let used := (p.flags.find? (·.long == n)).toList
      .misuse { message, similar := some ("argument", ["--" ++ n]), usage := some (p.usage used) : Complaint }.text
    | none =>
      let earliest := (laterOffers p name rest).foldl (fun best o =>
        match best with
        | some b => if b.1 ≤ o.1 then some b else some o
        | none => some o) none
      match earliest with
      | some (_, sub, n) =>
        .misuse { message, tips := ["'" ++ sub ++ " --" ++ n ++ "' exists"], usage := some (p.usage []) : Complaint }.text
      | none => .misuse (Complaint.unexpected ("--" ++ name) (p.usage [])).text

/-- Reads a command line: the subcommand to run with its options, or where reading stopped. -/
def readCommandLine (args : List String) : Except Stop Invocation :=
  go false args
where
  go (escaped : Bool) : List String → Except Stop Invocation
    | [] => .error (.misuse p.help)
    | a :: rest =>
      if escaped then .error (strayCommand p a true)
      else if a == "help" then .error (helpCommand p rest)
      else
        match p.find? a with
        | some s => (readOptions p s Given.empty rest).map fun g => ⟨s, g.values⟩
        | none =>
          if a == "--" then go true rest
          else if a.startsWith "--" then
            let (name, value) := splitAtEquals (a.toList.drop 2)
            .error (strayOption p name value rest)
          else if a.startsWith "-" && a != "-" then
            match a.toList.drop 1 with
            | c :: _ =>
              if p.flags.any (·.short == some c) then .error (.help p.help)
              else .error (.misuse (Complaint.unexpected ("-" ++ String.singleton c) (p.usage [])).text)
            | [] => .error (strayCommand p a false)
          else .error (strayCommand p a false)

theorem readCommandLine_nil : readCommandLine p [] = .error (.misuse p.help) := rfl

end Program

end KeyIntern.Command
