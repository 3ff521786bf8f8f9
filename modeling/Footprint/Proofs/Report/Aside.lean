import Footprint.Proofs.Files.Aside
import Footprint.Proofs.Report.Stages

/-!
# Reports that find something else in one file

Once the plot script has ended, a report reads nothing any more. So two runs from one world whose plot
scripts do the same, but for what they leave in one file, end with the same result, and what they
leave differs in that file at most.
-/
namespace Footprint

open FileSystem (Aside AsideAfter)

/-- The same has been logged, and the files differ in what one of them holds at most. -/
structure World.Aside (p : Place) (u v : World) : Prop where
  log : v.log = u.log
  files : FileSystem.Aside p u.files v.files

theorem World.Aside.refl (p : Place) (w : World) : World.Aside p w w := ⟨rfl, .refl p _⟩

theorem World.Aside.note {p : Place} {u v : World} (h : World.Aside p u v)
    (events : List Log.Event) : World.Aside p (u.note events) (v.note events) :=
  ⟨congrArg (events.reverse ++ ·) h.log, h.files⟩

namespace Run

variable {α β : Type} {p : Place} {x y : Run α}

/-- The same results, with the same log, and files that still differ in that one at most. -/
def SameAside (p : Place) (r r' : Except Failure α × World) : Prop :=
  r'.1 = r.1 ∧ World.Aside p r.2 r'.2

/-- From worlds that differ in that file at most, the steps come to such worlds again. -/
def Twins (p : Place) (x y : Run α) : Prop :=
  ∀ u v, World.Aside p u v → SameAside p (outcome x u) (outcome y v)

theorem SameAside.refl (p : Place) (r : Except Failure α × World) : SameAside p r r :=
  ⟨rfl, .refl p r.2⟩

theorem SameAside.bind {u v : World} {f g : α → Run β}
    (hx : SameAside p (outcome x u) (outcome y v)) (hf : ∀ a, Twins p (f a) (g a)) :
    SameAside p (outcome (x >>= f) u) (outcome (y >>= g) v) := by
  rw [outcome_bind, outcome_bind]
  generalize outcome x u = first, outcome y v = second at hx
  rcases first with ⟨r, u'⟩
  rcases second with ⟨r', v'⟩
  obtain ⟨rfl : r' = r, hworld⟩ := hx
  cases r' with
  | error e => exact ⟨rfl, hworld⟩
  | ok a => exact hf a u' v' hworld

theorem Twins.bind {f g : α → Run β} (hx : Twins p x y) (hf : ∀ a, Twins p (f a) (g a)) :
    Twins p (x >>= f) (y >>= g) := fun u v h => (hx u v h).bind hf

end Run

namespace Report

open Run

variable {p : Place}

/-! ## Behind the figure -/

variable {launch other : Launcher}

end Report
end Footprint
