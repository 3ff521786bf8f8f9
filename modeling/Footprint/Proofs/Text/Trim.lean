import Footprint.Text.Blank
import Mathlib.Data.List.DropRight

/-!
# What is left of a text without the white space around it

The text stands inside the original with nothing but white space on either side, and it neither
begins nor ends with white space. There is exactly one such text.
-/
namespace Footprint.Text

/-- The text is what is left of `s` without the white space at its ends. -/
structure Trims (s text : String) : Prop where
  around : ∃ before after : List Char, s.toList = before ++ (text.toList ++ after) ∧
    (∀ c ∈ before, isBlank c = true) ∧ ∀ c ∈ after, isBlank c = true
  first : ∀ c ∈ text.toList.head?, isBlank c = false
  last : ∀ c ∈ text.toList.getLast?, isBlank c = false

theorem trimChars_eq (cs : List Char) :
    trimChars cs = (cs.dropWhile isBlank).rdropWhile isBlank := rfl

theorem Trims.eq {s text : String} (h : Trims s text) : trim s = text := by
  obtain ⟨before, after, hs, hbefore, hafter⟩ := h.around
  have hleft : ((text.toList ++ after).dropWhile isBlank).rdropWhile isBlank = text.toList := by
    cases htext : text.toList with
    | nil =>
      rw [List.nil_append, List.dropWhile_eq_nil_iff.mpr hafter]
      rfl
    | cons c rest =>
      have hc : isBlank c = false := h.first c (by rw [htext]; rfl)
      rw [List.cons_append, List.dropWhile_cons_of_neg (by simp [hc]), ← List.cons_append, ← htext,
        List.rdropWhile, List.reverse_append,
        List.dropWhile_append_of_pos fun c hc => hafter c (List.mem_reverse.mp hc)]
      exact List.rdropWhile_eq_self_iff.mpr fun hne => by
        simp [h.last _ (List.getLast?_eq_some_getLast hne)]
  rw [trim, trimChars_eq, hs, List.dropWhile_append_of_pos hbefore, hleft, String.ofList_toList]

theorem isBlank_head_dropWhile {cs : List Char} {c : Char}
    (h : (cs.dropWhile isBlank).head? = some c) : isBlank c = false := by
  have hhead := List.head?_dropWhile_not isBlank cs
  rwa [h] at hhead

theorem trims_trim (s : String) : Trims s (trim s) := by
  have hleft := List.takeWhile_append_dropWhile (p := isBlank) (l := s.toList)
  have hright := List.rdropWhile_append_rtakeWhile (p := isBlank) (l := s.toList.dropWhile isBlank)
  have htrim : (trim s).toList = (s.toList.dropWhile isBlank).rdropWhile isBlank :=
    String.toList_ofList
  refine ⟨⟨s.toList.takeWhile isBlank, (s.toList.dropWhile isBlank).rtakeWhile isBlank, ?_,
    fun c hc => List.mem_takeWhile_imp hc, fun c hc => List.mem_rtakeWhile_imp hc⟩, ?_, ?_⟩
  · rw [htrim, hright, hleft]
  · intro c hc
    rw [htrim, Option.mem_def] at hc
    have hhead : (s.toList.dropWhile isBlank).head? = some c := by
      rw [← hright, List.head?_append, hc]
      rfl
    exact isBlank_head_dropWhile hhead
  · intro c hc
    rw [htrim, Option.mem_def] at hc
    obtain ⟨hne, rfl⟩ := List.mem_getLast?_eq_getLast hc
    simpa using List.rdropWhile_last_not isBlank _ hne

theorem trims_iff {s text : String} : Trims s text ↔ trim s = text :=
  ⟨Trims.eq, fun h => h ▸ trims_trim s⟩

end Footprint.Text
