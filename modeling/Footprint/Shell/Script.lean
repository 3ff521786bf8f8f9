import Footprint.Shell.Word

/-! # Shell scripts as lists of simple commands -/
namespace Footprint.Shell

inductive Token
  | word (w : Word)
  | newline
  | both
  | either
  /-- The output `fd` goes to a file, behind what it holds if `append`. -/
  | toFile (fd : Nat) (append : Bool)
  /-- The output `fd` goes where another one goes. -/
  | toOutput (fd : Nat)
deriving Repr, DecidableEq

/-- Where a character stands. -/
inductive Context | plain | single | double | comment
deriving Repr, DecidableEq

def isParameter (c : Char) : Bool := c.isDigit || ['@', '*', '#', '?', '$'].contains c

def push (w : Option Word) (p : Piece) : Option Word := some (w.getD [] ++ [p])

def finish (w : Option Word) (rest : List Token) : List Token := match w with
  | none => rest
  | some w => .word w :: rest

/-- The output that an arrow behind a word redirects, if the word is one digit. -/
def outputOf : Option Word → Nat × Option Word
  | some [.text [d]] => if d.isDigit then (d.toNat - 48, none) else (1, some [.text [d]])
  | w => (1, w)

/-- Characters that quotation marks of the double kind do not protect from a backslash. -/
def isEscapable (c : Char) : Bool := ['$', '"', '\\', '\x60'].contains c

/-- Operators that no script here may use. -/
def isForeign (c : Char) : Bool := ['&', '|', '<', '(', ')', '\x60'].contains c

/-- The tokens of a script behind the beginning `w` of a word; none if a quotation does not end or
an operator is not known. -/
def tokens : Context → Option Word → List Char → Option (List Token)
  | .comment, _, '\n' :: cs => (tokens .plain none cs).map (.newline :: ·)
  | .comment, w, _ :: cs => tokens .comment w cs
  | .single, w, '\'' :: cs => tokens .plain w cs
  | .single, w, c :: cs => tokens .single (push w (.text [c])) cs
  | .single, _, [] | .double, _, [] => none
  | .double, w, '"' :: cs => tokens .plain w cs
  | .double, w, '\\' :: '\n' :: cs => tokens .double w cs
  | .double, w, '\\' :: c :: cs =>
    tokens .double (push w (.text (if isEscapable c then [c] else ['\\', c]))) cs
  | .double, w, '$' :: '{' :: c :: '}' :: cs => tokens .double (push w (.parameter c true)) cs
  | .double, w, '$' :: c :: cs =>
    tokens .double (push w (if isParameter c then .parameter c true else .text ['$', c])) cs
  | .double, w, c :: cs => tokens .double (push w (.text [c])) cs
  | .plain, w, '"' :: '"' :: cs | .plain, w, '\'' :: '\'' :: cs =>
    tokens .plain (push w (.text [])) cs
  | .plain, w, '"' :: cs => tokens .double w cs
  | .plain, w, '\'' :: cs => tokens .single w cs
  | .plain, w, '\n' :: cs | .plain, w, ';' :: cs =>
    (tokens .plain none cs).map fun ts => finish w (.newline :: ts)
  | .plain, w, ' ' :: cs | .plain, w, '\t' :: cs => (tokens .plain none cs).map (finish w)
  | .plain, none, '#' :: cs => tokens .comment none cs
  | .plain, w, '&' :: '&' :: cs =>
    (tokens .plain none cs).map fun ts => finish w (.both :: ts)
  | .plain, w, '|' :: '|' :: cs =>
    (tokens .plain none cs).map fun ts => finish w (.either :: ts)
  | .plain, w, '>' :: '>' :: cs =>
    (tokens .plain none cs).map fun ts => finish (outputOf w).2 (.toFile (outputOf w).1 true :: ts)
  | .plain, w, '>' :: '&' :: cs =>
    (tokens .plain none cs).map fun ts => finish (outputOf w).2 (.toOutput (outputOf w).1 :: ts)
  | .plain, w, '>' :: cs =>
    (tokens .plain none cs).map fun ts => finish (outputOf w).2 (.toFile (outputOf w).1 false :: ts)
  | .plain, w, '\\' :: '\n' :: cs => tokens .plain w cs
  | .plain, w, '\\' :: c :: cs => tokens .plain (push w (.text [c])) cs
  | .plain, w, '$' :: '{' :: c :: '}' :: cs => tokens .plain (push w (.parameter c false)) cs
  | .plain, w, '$' :: c :: cs =>
    tokens .plain (push w (if isParameter c then .parameter c false else .text ['$', c])) cs
  | .plain, w, c :: cs => if isForeign c then none else tokens .plain (push w (.text [c])) cs
  | _, w, [] => some (finish w [])

/-- When a command runs: always, or after one that succeeded, or after one that failed. -/
inductive Guard | always | success | failure
deriving Repr, DecidableEq

structure Redirection where
  fd : Nat
  append : Bool
  /-- None if the output joins another one. -/
  target : Option Word
deriving Repr, DecidableEq

structure Step where
  guard : Guard
  words : List Word
  redirections : List Redirection
deriving Repr, DecidableEq

def Step.isEmpty (s : Step) : Bool := s.words.isEmpty && s.redirections.isEmpty

/-- The commands of a script, of which `s` has been read in part. -/
def steps (s : Step) : List Token → Option (List Step)
  | [] => some (if s.isEmpty then [] else [s])
  | .word w :: ts => steps { s with words := s.words ++ [w] } ts
  | .newline :: ts =>
    if s.isEmpty then steps s ts else (steps ⟨.always, [], []⟩ ts).map (s :: ·)
  | .both :: ts =>
    if s.isEmpty then none else (steps ⟨.success, [], []⟩ ts).map (s :: ·)
  | .either :: ts =>
    if s.isEmpty then none else (steps ⟨.failure, [], []⟩ ts).map (s :: ·)
  | .toFile fd append :: .word w :: ts =>
    steps { s with redirections := s.redirections ++ [⟨fd, append, some w⟩] } ts
  | .toOutput fd :: .word _ :: ts =>
    steps { s with redirections := s.redirections ++ [⟨fd, false, none⟩] } ts
  | _ => none

def parse (script : List Char) : Option (List Step) := do
  steps ⟨.always, [], []⟩ (← tokens .plain none script)

end Footprint.Shell
