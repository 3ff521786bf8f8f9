/-! # Arithmetic on machine words that stops instead of wrapping, and lists too long to be made -/
namespace Footprint

/-- An operation with no result among the machine words, or a list that takes too many bytes. -/
inductive Fault | addition | multiplication | remainder | capacity
deriving Repr, DecidableEq

def Fault.message : Fault → String
  | .addition => "attempt to add with overflow"
  | .multiplication => "attempt to multiply with overflow"
  | .remainder => "attempt to calculate the remainder with a divisor of zero"
  | .capacity => "capacity overflow"

/-- How a computation ends early: at a fault, or with an error of its own. -/
inductive Stop (ε : Type)
  | fault (f : Fault)
  | error (e : ε)
deriving Repr, DecidableEq

/-- Numbers below `wordLimit` fit a machine word. -/
def wordLimit : Nat := Nat.pow 2 64

variable {ε : Type}

def addWord (a b : Nat) : Except (Stop ε) Nat :=
  if a + b < wordLimit then .ok (a + b) else .error (.fault .addition)

def mulWord (a b : Nat) : Except (Stop ε) Nat :=
  if a * b < wordLimit then .ok (a * b) else .error (.fault .multiplication)

def remWord (a b : Nat) : Except (Stop ε) Nat :=
  if b = 0 then .error (.fault .remainder) else .ok (a % b)

/-- A list takes fewer bytes than `spaceLimit`. -/
def spaceLimit : Nat := Nat.pow 2 63

/-- As many times `x` as `count` says, each in `size` bytes. -/
def replicateWithin {α : Type} (size count : Nat) (x : α) : Except (Stop ε) (List α) :=
  if size * count < spaceLimit then .ok (List.replicate count x) else .error (.fault .capacity)

end Footprint
