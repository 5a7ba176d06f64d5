import GestureMode.Text.Blank
import Mathlib.Data.List.TakeWhile

/-!
# What trimming leaves

A trimmed text neither begins nor ends with a blank character.  Trimming any text gives the
one trimmed text that stands in it between blank characters, so nothing but these is lost,
and a trimmed text may be surrounded by any of them.
-/

set_option autoImplicit false

namespace GestureMode.Text

def AllBlank (s : String) : Prop :=
  ∀ c ∈ s.toList, isBlank c = true

theorem allBlank_iff (s : String) : AllBlank s ↔ s.toList.all isBlank = true :=
  List.all_eq_true.symm

/-- Neither the first nor the last character is blank. -/
structure Trimmed (s : String) : Prop where
  first : ∀ c : Char, s.toList.head? = some c → isBlank c = false
  last : ∀ c : Char, s.toList.getLast? = some c → isBlank c = false

/-- `raw` is the trimmed `text` between blank characters. -/
structure Strips (raw text : String) : Prop where
  trimmed : Trimmed text
  between : ∃ left right : String, AllBlank left ∧ AllBlank right ∧ raw = left ++ text ++ right

theorem dropWhile_isBlank_of_head (cs : List Char)
    (first : ∀ c : Char, cs.head? = some c → isBlank c = false) :
    cs.dropWhile isBlank = cs := by
  cases cs with
  | nil => rfl
  | cons c rest =>
    have visible : isBlank c = false := first c rfl
    exact List.dropWhile_cons_of_neg (by rw [visible]; decide)

theorem head?_dropWhile_isBlank (cs : List Char) (c : Char)
    (first : (cs.dropWhile isBlank).head? = some c) : isBlank c = false := by
  have stopped := List.head?_dropWhile_not isBlank cs
  rw [first] at stopped
  exact stopped

theorem dropBlanksRight_of_last (cs : List Char)
    (last : ∀ c : Char, cs.getLast? = some c → isBlank c = false) : dropBlanksRight cs = cs := by
  have visible : ∀ c : Char, cs.reverse.head? = some c → isBlank c = false := by
    intro c first
    rw [List.head?_reverse] at first
    exact last c first
  rw [dropBlanksRight, dropWhile_isBlank_of_head cs.reverse visible, List.reverse_reverse]

theorem getLast?_dropBlanksRight (cs : List Char) (c : Char)
    (last : (dropBlanksRight cs).getLast? = some c) : isBlank c = false := by
  rw [dropBlanksRight, List.getLast?_reverse] at last
  exact head?_dropWhile_isBlank cs.reverse c last

theorem dropBlanksRight_append (cs right : List Char) (blank : ∀ c ∈ right, isBlank c = true) :
    dropBlanksRight (cs ++ right) = dropBlanksRight cs := by
  have turned : ∀ c ∈ right.reverse, isBlank c = true := by
    intro c member
    exact blank c (List.mem_reverse.mp member)
  rw [dropBlanksRight, List.reverse_append, List.dropWhile_append_of_pos turned]
  rfl

theorem exists_dropBlanksRight_append (cs : List Char) :
    ∃ right : List Char, (∀ c ∈ right, isBlank c = true) ∧ cs = dropBlanksRight cs ++ right := by
  refine ⟨(cs.reverse.takeWhile isBlank).reverse, ?_, ?_⟩
  · intro c member
    exact List.all_eq_true.mp List.all_takeWhile c (List.mem_reverse.mp member)
  · rw [dropBlanksRight, ← List.reverse_append, List.takeWhile_append_dropWhile,
      List.reverse_reverse]

theorem head?_dropBlanksRight (cs : List Char) (c : Char)
    (first : (dropBlanksRight cs).head? = some c) : cs.head? = some c := by
  obtain ⟨right, -, split⟩ := exists_dropBlanksRight_append cs
  rw [split, List.head?_append, first]
  rfl

theorem trimChars_between (left cs right : List Char) (blankLeft : ∀ c ∈ left, isBlank c = true)
    (blankRight : ∀ c ∈ right, isBlank c = true) :
    trimChars (left ++ cs ++ right) = trimChars cs := by
  rw [List.append_assoc, trimChars, List.dropWhile_append_of_pos blankLeft, List.dropWhile_append]
  split
  · next all =>
    rw [trimChars, List.isEmpty_iff.mp all, List.dropWhile_eq_nil_iff.mpr blankRight]
  · exact dropBlanksRight_append (cs.dropWhile isBlank) right blankRight

theorem trim_between (left text right : String) (blankLeft : AllBlank left)
    (blankRight : AllBlank right) : trim (left ++ text ++ right) = trim text := by
  rw [trim, String.toList_append, String.toList_append,
    trimChars_between left.toList text.toList right.toList blankLeft blankRight, trim]

theorem trimmed_of_visible (text : String) (visible : ∀ c ∈ text.toList, isBlank c = false) :
    Trimmed text where
  first c first := visible c (List.mem_of_head? first)
  last c last := visible c (List.mem_of_getLast? last)

theorem trim_of_trimmed (text : String) (trimmed : Trimmed text) : trim text = text := by
  rw [trim, trimChars, dropWhile_isBlank_of_head text.toList trimmed.first,
    dropBlanksRight_of_last text.toList trimmed.last, String.ofList_toList]

theorem trimmed_trim (raw : String) : Trimmed (trim raw) where
  first c first := by
    rw [toList_trim, trimChars] at first
    exact head?_dropWhile_isBlank raw.toList c (head?_dropBlanksRight _ c first)
  last c last := by
    rw [toList_trim, trimChars] at last
    exact getLast?_dropBlanksRight _ c last

theorem strips_trim (raw : String) : Strips raw (trim raw) := by
  refine ⟨trimmed_trim raw, ?_⟩
  obtain ⟨right, blank, split⟩ :=
    exists_dropBlanksRight_append (raw.toList.dropWhile isBlank)
  refine ⟨String.ofList (raw.toList.takeWhile isBlank), String.ofList right, ?_, ?_, ?_⟩
  · intro c member
    rw [String.toList_ofList] at member
    exact List.all_eq_true.mp List.all_takeWhile c member
  · intro c member
    rw [String.toList_ofList] at member
    exact blank c member
  · apply String.toList_injective
    rw [String.toList_append, String.toList_append, String.toList_ofList, String.toList_ofList,
      toList_trim, List.append_assoc, trimChars, ← split, List.takeWhile_append_dropWhile]

/-- Trimming finds the trimmed text between the blank characters. -/
theorem trim_eq_iff (raw text : String) : trim raw = text ↔ Strips raw text := by
  constructor
  · rintro rfl
    exact strips_trim raw
  · rintro ⟨trimmed, left, right, blankLeft, blankRight, rfl⟩
    rw [trim_between left text right blankLeft blankRight, trim_of_trimmed text trimmed]

theorem trim_eq_self_iff (text : String) : trim text = text ↔ Trimmed text := by
  constructor
  · intro same
    rw [← same]
    exact trimmed_trim text
  · exact trim_of_trimmed text

theorem trim_trim (raw : String) : trim (trim raw) = trim raw :=
  trim_of_trimmed (trim raw) (trimmed_trim raw)

end GestureMode.Text
