import Footprint.CommandLine.Arguments
import Footprint.Proofs.Fault
import Mathlib.Data.List.Induction
import Mathlib.Data.List.TakeWhile

/-!
# What the command line accepts

A list of arguments is a sequence of options, each in one of its spellings. An option whose value may
still follow has no effect before the next argument, so reading is described from one settled state to
the next. What is read depends on the order of the options only through that of the log directives.
-/
namespace Footprint.CommandLine

/-! ## Options and their spellings -/

/-- An option as it is meant. -/
inductive Choice
  | valued (o : Valued) (v : String)
  | skipPlot
  | noShow
deriving DecidableEq

def Valued.name : Valued → String
  | .configFile => "config-file"
  | .log => "log"

def Valued.letter : Valued → Char
  | .configFile => 'c'
  | .log => 'l'

def Valued.long (o : Valued) : String := "--" ++ o.name

def Valued.short (o : Valued) : String := .ofList ['-', o.letter]

/-- What an option adds to those before it. -/
def Choice.apply (a : Arguments) : Choice → Except Refusal Arguments
  | .valued o v => a.accept v o
  | .skipPlot =>
    if a.skipPlot then Arguments.refuse (.repeated (Flag.text .skipPlot))
    else .ok { a with skipPlot := true }
  | .noShow =>
    if a.noShow then Arguments.refuse (.repeated (Flag.text .noShow))
    else .ok { a with noShow := true }

namespace Arguments.Reading

variable {r r' : Reading} {a : Arguments}

/-! ## The text of an argument -/

/-- An option that takes effect at once. -/
def take (r : Reading) (choice : Choice) : Except Refusal Reading := do
  return ⟨← choice.apply (← r.settle), none⟩

end Arguments.Reading

/-! ## What the options ask for -/

def Choice.directive? : Choice → Option String
  | .valued .log directive => some directive
  | _ => none

/-- The arguments say what these options ask for, and nothing else. -/
structure Asks (choices : List Choice) (a : Arguments) : Prop where
  configFile : ∀ path, a.configFile = some path ↔ .valued .configFile path ∈ choices
  skipPlot : a.skipPlot = true ↔ .skipPlot ∈ choices
  noShow : a.noShow = true ↔ .noShow ∈ choices
  log : a.log = choices.filterMap Choice.directive?

variable {args : List String} {choices : List Choice} {a b : Arguments}

theorem Asks.apply (h : Asks choices a) {choice : Choice} (happly : choice.apply a = .ok b) :
    Asks (choices ++ [choice]) b := by
  cases choice with
  | skipPlot =>
    rw [Choice.apply] at happly
    split at happly
    · cases happly
    · cases happly
      exact ⟨by simp [h.configFile], by simp, by simp [h.noShow], by simp [h.log, Choice.directive?]⟩
  | noShow =>
    rw [Choice.apply] at happly
    split at happly
    · cases happly
    · cases happly
      exact ⟨by simp [h.configFile], by simp [h.skipPlot], by simp, by simp [h.log, Choice.directive?]⟩
  | valued o v =>
    cases o with
    | configFile =>
      simp only [Choice.apply, Arguments.accept] at happly
      split_ifs at happly with hnamed hempty
      · cases happly
      · cases happly
      · cases happly
        -- No config file has been named before this one.
        have hnone : ∀ path, .valued .configFile path ∉ choices := by
          intro path hmem
          rw [← h.configFile] at hmem
          exact hnamed (by rw [hmem, Option.isSome_some])
        exact ⟨fun path => by simp [hnone, eq_comm], by simp [h.skipPlot], by simp [h.noShow], by
          simp [h.log, Choice.directive?]⟩
    | log =>
      cases happly
      exact ⟨by simp [h.configFile], by simp [h.skipPlot], by simp [h.noShow], by
        simp [h.log, Choice.directive?]⟩

/-- Options in another order, with whatever directives for the log between them. -/
def Reordered (choices choices' : List Choice) : Prop :=
  (choices.filter (·.directive?.isNone)).Perm (choices'.filter (·.directive?.isNone))

end Footprint.CommandLine
