/-! # The grammar of a command line

A program is a name, a line saying what it does, and subcommands; each subcommand has its own
options. Every command also answers `-h` and `--help`, and the program has a `help`
subcommand that prints the help of the subcommand it names.

This module holds that grammar and the texts made from it: the help of each command, the usage
lines, and the complaint printed for a command line that does not fit.

A help text is what the command does, its usage line, and its sections (`Commands:`,
`Arguments:`, `Options:`), an entry per line. Entries align their descriptions in one column,
unless that would push some description past 100 columns while the names take more than 40 of
them; then every description goes on the line below its entry, indented by ten.

Main statement: `Complaint.text_prefix`, every complaint starts with `error: `.
-/

namespace KeyIntern.Command

/-- What an option does when it is given. -/
inductive Action where
  /-- Takes one value, and may be given once. -/
  | single
  /-- Takes one value each time it is given. -/
  | repeated
  /-- Takes no value, and may be given once. -/
  | switch
  /-- Prints the help of its command. -/
  | help
  deriving DecidableEq, Repr

/-- What an option accepts as a value: any text, or a path, which may not be empty. -/
inductive ValueKind where
  | text
  | path
  deriving DecidableEq, Repr

/-- An option of a command. Its long name is also its identity. -/
structure Flag where
  long : String
  short : Option Char := none
  valueName : String := ""
  action : Action
  kind : ValueKind := .text
  help : String
  deriving Repr

namespace Flag

/-- Whether the option takes a value. -/
def takesValue (f : Flag) : Bool :=
  f.action == .single || f.action == .repeated

/-- How the option is written in usage lines and complaints: `--root <ROOT>`, `--json`. -/
def spec (f : Flag) : String :=
  "--" ++ f.long ++ (if f.takesValue then " <" ++ f.valueName ++ ">" else "")

/-- The option every command has. -/
def helpFlag : Flag :=
  { long := "help", short := some 'h', action := .help, help := "Print help" }

end Flag

/-- A subcommand of a program. -/
structure Subcommand where
  name : String
  about : String
  /-- The options, the help option last. -/
  flags : List Flag

/-- A program with subcommands. -/
structure Program where
  name : String
  about : String
  subcommands : List Subcommand

/-- The number of columns a help text is laid out in. -/
def columns : Nat := 100

/-- What the built-in `help` subcommand does. -/
def helpAbout : String := "Print this message or the help of the given subcommand(s)"

/-- How the argument of the built-in `help` subcommand is written. -/
def helpArgument : String := "[COMMAND]..."

/-- `n` spaces. -/
def spaces (n : Nat) : String := String.ofList (List.replicate n ' ')

/-- Whether entries of width up to `longest` push one of these descriptions past the last
column, with the names taking more than 40 columns. -/
def descriptionsBelow (longest : Nat) (descriptions : List String) : Bool :=
  let taken := longest + 4
  columns ≥ taken && taken > 40 && descriptions.any fun d => d.length > columns - taken

/-- The lines of a section: each entry as `(name, description, indent before the name)`. -/
def sectionLines (entries : List (String × String × String)) : String :=
  let longest := entries.foldl (fun m (n, _, _) => max m n.length) 2
  let below := descriptionsBelow longest (entries.map fun (_, d, _) => d)
  let line (e : String × String × String) :=
    let (n, d, lead) := e
    if below then "  " ++ lead ++ n ++ "\n" ++ spaces 10 ++ d
    else "  " ++ lead ++ n ++ spaces (longest + 2 - n.length) ++ d
  "\n".intercalate (entries.map line)

/-- The options section of a command. -/
def optionLines (flags : List Flag) : String :=
  sectionLines (flags.map fun f =>
    (f.spec, f.help, match f.short with
      | some c => "-" ++ String.singleton c ++ ", "
      | none => "    "))

/-- A help text: what the command does, its usage, and its sections. -/
def helpText (about usage : String) (sections : List (String × String)) : String :=
  about ++ "\n\nUsage: " ++ usage ++ "\n\n" ++
    "\n\n".intercalate (sections.map fun (title, body) => title ++ ":\n" ++ body) ++ "\n"

namespace Program

/-- The options of the program itself. -/
def flags (_ : Program) : List Flag := [Flag.helpFlag]

/-- The names of the subcommands, the built-in `help` last. -/
def commandNames (p : Program) : List String :=
  p.subcommands.map (·.name) ++ ["help"]

/-- The subcommand of a name. -/
def find? (p : Program) (name : String) : Option Subcommand :=
  p.subcommands.find? (·.name == name)

/-- The program's usage line, with the options named in `used`. -/
def usage (p : Program) (used : List Flag) : String :=
  p.name ++ String.join (used.map fun f => " " ++ f.spec) ++ " <COMMAND>"

/-- The program's help. -/
def help (p : Program) : String :=
  let commands := p.subcommands.map (fun s => (s.name, s.about, "")) ++ [("help", helpAbout, "")]
  helpText p.about (p.usage []) [("Commands", sectionLines commands), ("Options", optionLines p.flags)]

/-- The usage line of the built-in `help` subcommand. -/
def helpUsage (p : Program) : String :=
  p.name ++ " help " ++ helpArgument

/-- The help of the built-in `help` subcommand. -/
def helpHelp (p : Program) : String :=
  helpText helpAbout p.helpUsage
    [("Arguments", sectionLines [(helpArgument, "Print help for the subcommand(s)", "")])]

/-- The usage line of a subcommand: with the options named in `used`, or else with
`[OPTIONS]` when it has options besides help. -/
def subUsage (p : Program) (s : Subcommand) (used : List Flag) : String :=
  let name := p.name ++ " " ++ s.name
  if used.isEmpty then
    name ++ (if s.flags.any (·.action != .help) then " [OPTIONS]" else "")
  else name ++ String.join (used.map fun f => " " ++ f.spec)

/-- The help of a subcommand. -/
def subHelp (p : Program) (s : Subcommand) : String :=
  helpText s.about (p.subUsage s []) [("Options", optionLines s.flags)]

end Program

/-- A complaint about a command line, by its parts. -/
structure Complaint where
  message : String
  /-- Close names, with what kind of thing they name. -/
  similar : Option (String × List String) := none
  tips : List String := []
  usage : Option String := none
  /-- The option that prints help, to point to at the end. -/
  helpHint : Option String := some "--help"

/-- The names of a list, each quoted, separated by commas. -/
def quotedList (names : List String) : String :=
  ", ".intercalate (names.map fun n => "'" ++ n ++ "'")

namespace Complaint

/-- The text printed for a complaint. -/
def text (c : Complaint) : String :=
  let similar := match c.similar with
    | some (kind, [n]) => "\n\n  tip: a similar " ++ kind ++ " exists: '" ++ n ++ "'"
    | some (kind, ns) => "\n\n  tip: some similar " ++ kind ++ "s exist: " ++ quotedList ns
    | none => ""
  let tips :=
    if c.tips.isEmpty then ""
    else (if c.similar.isSome then "" else "\n") ++ String.join (c.tips.map ("\n  tip: " ++ ·))
  let usage := match c.usage with
    | some u => "\n\nUsage: " ++ u
    | none => ""
  let hint := match c.helpHint with
    | some h => "\n\nFor more information, try '" ++ h ++ "'.\n"
    | none => "\n"
  "error: " ++ c.message ++ similar ++ tips ++ usage ++ hint

theorem text_prefix (c : Complaint) : ∃ rest, c.text = "error: " ++ rest :=
  ⟨_, by simp only [text, String.append_assoc]; rfl⟩

/-- An argument that fits nowhere. -/
def unexpected (arg : String) (usage : String) : Complaint :=
  { message := "unexpected argument '" ++ arg ++ "' found", usage := some usage }

/-- An option that needs a value and got none. -/
def missingValue (f : Flag) : Complaint :=
  { message := "a value is required for '" ++ f.spec ++ "' but none was supplied" }

/-- An option given a value it does not take. -/
def unwantedValue (value : String) (f : Flag) (usage : String) : Complaint :=
  { message := "unexpected value '" ++ value ++ "' for '" ++ f.spec ++ "' found; no more were expected",
    usage := some usage }

/-- An option given twice that may be given once. -/
def repeated (f : Flag) (usage : String) : Complaint :=
  { message := "the argument '" ++ f.spec ++ "' cannot be used multiple times", usage := some usage }

/-- A subcommand name that names no subcommand. -/
def unknownCommand (name usage : String) (helpHint : Option String) : Complaint :=
  { message := "unrecognized subcommand '" ++ name ++ "'", usage := some usage, helpHint }

end Complaint

end KeyIntern.Command
