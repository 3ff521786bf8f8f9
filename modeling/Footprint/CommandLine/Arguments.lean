/-! # The arguments of the command line -/
namespace Footprint.CommandLine

/-- What the arguments ask for. -/
structure Arguments where
  configFile : Option String := none
  skipPlot : Bool := false
  noShow : Bool := false
  /-- Directives for the log. -/
  log : List String := []
deriving Repr, DecidableEq

/-- An option that takes a value. -/
inductive Valued | configFile | log
deriving Repr, DecidableEq

inductive Flag | skipPlot | noShow | help | version
deriving Repr, DecidableEq

def Valued.text : Valued → String
  | .configFile => "--config-file <CONFIG_FILE>"
  | .log => "--log <LOG>"

def Flag.text : Flag → String
  | .skipPlot => "--skip-plot"
  | .noShow => "--no-show"
  | .help => "--help"
  | .version => "--version"

inductive ArgumentError
  | valueMissing (option : Valued)
  | repeated (option : String)
  | valueUnexpected (flag : Flag) (value : String)
  | unexpected (argument : String)
deriving Repr, DecidableEq

def ArgumentError.message : ArgumentError → String
  | .valueMissing o => s!"a value is required for '{o.text}' but none was supplied"
  | .repeated o => s!"the argument '{o}' cannot be used multiple times"
  | .valueUnexpected f v => s!"unexpected value '{v}' for '{f.text}' found; no more were expected"
  | .unexpected a => s!"unexpected argument '{a}' found"

/-- Why the arguments lead to no report. -/
inductive Refusal
  | help
  | version
  | error (e : ArgumentError)
deriving Repr, DecidableEq

namespace Arguments

/-- An option whose value may still follow counts only when the next one begins. -/
structure Reading where
  done : Arguments
  pending : Option (Valued × Option String)
deriving Repr, DecidableEq

def refuse {α : Type} (e : ArgumentError) : Except Refusal α := .error (.error e)

/-- A config file is named at most once, and its name is not empty. -/
def accept (a : Arguments) (v : String) : Valued → Except Refusal Arguments
  | .configFile =>
    if a.configFile.isSome then refuse (.repeated (Valued.text .configFile))
    else if v = "" then refuse (.valueMissing .configFile)
    else .ok { a with configFile := some v }
  | .log => .ok { a with log := a.log ++ [v] }

namespace Reading

def settle (r : Reading) : Except Refusal Arguments := match r.pending with
  | none => .ok r.done
  | some (o, none) => refuse (.valueMissing o)
  | some (o, some v) => r.done.accept v o

def option (r : Reading) (o : Valued) (attached : Option String) : Except Refusal Reading := do
  let a ← r.settle
  match attached with
  | some v => return ⟨← a.accept v o, none⟩
  | none => return ⟨a, some (o, none)⟩

def flag (r : Reading) (f : Flag) : Except Refusal Reading := do
  let a ← r.settle
  match f with
  | .help => .error .help
  | .version => .error .version
  | .skipPlot =>
    if a.skipPlot then refuse (.repeated f.text) else .ok ⟨{ a with skipPlot := true }, none⟩
  | .noShow => if a.noShow then refuse (.repeated f.text) else .ok ⟨{ a with noShow := true }, none⟩

def plainFlag (r : Reading) (f : Flag) : Option String → Except Refusal Reading
  | some v => refuse (.valueUnexpected f v)
  | none => r.flag f

/-- An argument behind two hyphens: a name, and perhaps `=` and a value. -/
def long (r : Reading) (name : String) (value : Option String) : Except Refusal Reading :=
  match name with
  | "config-file" => r.option .configFile value
  | "log" => r.option .log value
  | "skip-plot" => r.plainFlag .skipPlot value
  | "no-show" => r.plainFlag .noShow value
  | "help" => r.plainFlag .help value
  | "version" => r.plainFlag .version value
  | _ => refuse (.unexpected ("--" ++ name))

/-- What follows the letter of an option; `=` in front of the value may be left out. -/
def attachedTo : List Char → Option String
  | [] => none
  | '=' :: v => some (.ofList v)
  | v => some (.ofList v)

/-- An argument behind one hyphen. Help and version end the reading, and an option takes the
letters behind its own as its value. -/
def short (r : Reading) : List Char → Except Refusal Reading
  | 'c' :: v => r.option .configFile (attachedTo v)
  | 'l' :: v => r.option .log (attachedTo v)
  | 'h' :: _ => r.flag .help
  | 'V' :: _ => r.flag .version
  | c :: _ => refuse (.unexpected (.ofList ['-', c]))
  | [] => .ok r

/-- An argument that is neither an option nor the value of one is not expected. -/
def value (r : Reading) (v : String) : Except Refusal Reading := match r.pending with
  | some (o, none) => .ok { r with pending := some (o, some v) }
  | _ => refuse (.unexpected v)

def splitValue (cs : List Char) : String × Option String :=
  match cs.dropWhile (· ≠ '=') with
  | [] => (.ofList cs, none)
  | _ :: v => (.ofList (cs.takeWhile (· ≠ '=')), some (.ofList v))

def argument (r : Reading) (text : String) : Except Refusal Reading :=
  match text.toList with
  | '-' :: '-' :: cs => r.long (splitValue cs).1 (splitValue cs).2
  | '-' :: c :: cs => r.short (c :: cs)
  | _ => r.value text

def readAll (r : Reading) : List String → Except Refusal Arguments
  | [] => r.settle
  | "--" :: [] => r.settle
  | "--" :: a :: _ => refuse (.unexpected a)
  | a :: rest => match r.argument a with
    | .ok r => readAll r rest
    | .error e => .error e

end Reading

def read (args : List String) : Except Refusal Arguments := Reading.readAll ⟨{}, none⟩ args

end Arguments
end Footprint.CommandLine
