/-!
# Entries by key

A table of values by key, as a list of entries.  A key that is put keeps its
place or goes to the end; the first entry of a key is the one that counts.
-/

set_option autoImplicit false

namespace GestureMode

abbrev Entries (κ α : Type) := List (κ × α)

namespace Entries

variable {κ α : Type} [DecidableEq κ]

def get? : Entries κ α → κ → Option α
  | [], _ => none
  | (k, v) :: rest, key => if k = key then some v else get? rest key

def put (entries : Entries κ α) (key : κ) (value : α) : Entries κ α :=
  match entries with
  | [] => [(key, value)]
  | (k, v) :: rest => if k = key then (k, value) :: rest else (k, v) :: put rest key value

def erase (entries : Entries κ α) (key : κ) : Entries κ α :=
  entries.filter fun entry => decide (entry.1 ≠ key)

def set (entries : Entries κ α) (key : κ) : Option α → Entries κ α
  | some value => put entries key value
  | none => erase entries key

@[simp]
theorem get?_nil (key : κ) : get? ([] : Entries κ α) key = none := rfl

@[simp]
theorem get?_put_self (entries : Entries κ α) (key : κ) (value : α) :
    get? (put entries key value) key = some value := by
  induction entries with
  | nil => simp [put, get?]
  | cons entry rest ih =>
    obtain ⟨k, v⟩ := entry
    by_cases h : k = key <;> simp [put, get?, h, ih]

theorem get?_put_of_ne (entries : Entries κ α) (key other : κ) (value : α) (h : other ≠ key) :
    get? (put entries key value) other = get? entries other := by
  induction entries with
  | nil => simp [put, get?, Ne.symm h]
  | cons entry rest ih =>
    obtain ⟨k, v⟩ := entry
    by_cases hk : k = key
    · subst hk
      simp [put, get?, Ne.symm h]
    · by_cases ho : k = other
      · subst ho
        simp [put, get?, hk]
      · simp [put, get?, hk, ho, ih]

@[simp]
theorem get?_erase_self (entries : Entries κ α) (key : κ) : get? (erase entries key) key = none := by
  induction entries with
  | nil => rfl
  | cons entry rest ih =>
    obtain ⟨k, v⟩ := entry
    by_cases h : k = key
    · simpa [erase, h] using ih
    · simpa [erase, get?, h] using ih

theorem get?_erase_of_ne (entries : Entries κ α) (key other : κ) (h : other ≠ key) :
    get? (erase entries key) other = get? entries other := by
  induction entries with
  | nil => rfl
  | cons entry rest ih =>
    obtain ⟨k, v⟩ := entry
    by_cases hk : k = key
    · subst hk
      simpa [erase, get?, Ne.symm h] using ih
    · by_cases ho : k = other
      · subst ho
        simp [erase, get?, hk]
      · simpa [erase, get?, hk, ho] using ih

theorem put_eq_self_iff (entries : Entries κ α) (key : κ) (value : α) :
    put entries key value = entries ↔ get? entries key = some value := by
  induction entries with
  | nil => simp [put, get?]
  | cons entry rest ih =>
    obtain ⟨k, v⟩ := entry
    by_cases h : k = key
    · simp [put, get?, h, eq_comm]
    · simp [put, get?, h, ih]

/-- The entries in front hide those behind them. -/
theorem get?_append (front back : Entries κ α) (key : κ) :
    get? (front ++ back) key = (get? front key).or (get? back key) := by
  induction front with
  | nil => rfl
  | cons entry rest ih =>
    obtain ⟨k, v⟩ := entry
    by_cases h : k = key
    · simp [get?, h]
    · simp [get?, h, ih]

theorem get?_eq_none_iff (entries : Entries κ α) (key : κ) :
    get? entries key = none ↔ ∀ entry ∈ entries, entry.1 ≠ key := by
  induction entries with
  | nil => simp
  | cons entry rest ih =>
    obtain ⟨k, v⟩ := entry
    by_cases h : k = key
    · simp [get?, h]
    · simp [get?, h, ih]

theorem get?_filter (entries : Entries κ α) (key : κ) :
    get? (entries.filter fun entry => entry.1 = key) key = get? entries key := by
  induction entries with
  | nil => rfl
  | cons entry rest ih =>
    obtain ⟨k, v⟩ := entry
    by_cases h : k = key
    · simp [get?, h]
    · simp [get?, h, ih]

theorem map_fst_put (entries : Entries κ α) (key : κ) (old value : α)
    (present : get? entries key = some old) :
    (put entries key value).map Prod.fst = entries.map Prod.fst := by
  induction entries with
  | nil => cases present
  | cons entry rest ih =>
    obtain ⟨k, v⟩ := entry
    by_cases h : k = key
    · simp [put, h]
    · rw [get?, if_neg h] at present
      simp [put, h, ih present]

theorem get?_set (entries : Entries κ α) (key other : κ) (value : Option α) :
    get? (set entries key value) other = if other = key then value else get? entries other := by
  by_cases same : other = key
  · rw [if_pos same, same]
    cases value with
    | none => exact get?_erase_self entries key
    | some value => exact get?_put_self entries key value
  · rw [if_neg same]
    cases value with
    | none => exact get?_erase_of_ne entries key other same
    | some value => exact get?_put_of_ne entries key other value same

end Entries

end GestureMode
