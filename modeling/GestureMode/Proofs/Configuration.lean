import GestureMode.Config
import GestureMode.Proofs.Numerals
import GestureMode.Proofs.Trimming

/-!
# What the properties configure

A property overrides the default of its own field when its text is of the right kind, and
has no say in any other field.  The intervals are numerals between blank characters, of a
number of milliseconds below 2^64, which must not be zero for the pauses; the node is any
text that is not all blank; and the debug text has to be exact.  What is written for a
configuration is read back as that configuration.
-/

set_option autoImplicit false

namespace GestureMode

theorem Span.ofMillis_injective (a b : Nat) (same : ofMillis a = ofMillis b) : a = b := by
  have totals := congrArg total same
  rw [total_ofMillis, total_ofMillis] at totals
  omega

namespace Config

open Text Text.Numeral

def millisLimit : Nat := 18446744073709551616

/-- The text of a property is a numeral between blank characters, of a number below 2^64. -/
def SpellsMillis (raw : Option String) (ms : Nat) : Prop :=
  ∃ whole text : String, raw = some whole ∧ Strips whole text ∧ Magnitude text.toList ms ∧
    ms < millisLimit

def SpellsNode (raw : Option String) (node : String) : Prop :=
  ∃ whole : String, raw = some whole ∧ Strips whole node ∧ node ≠ ""

/-- The value that is spelled, or else the default. -/
def Overrides {α : Type} (spelled : α → Prop) (fallback value : α) : Prop :=
  spelled value ∨ value = fallback ∧ ∀ other : α, ¬ spelled other

def Writes (lookup : String → Option String) (property text : String) : Prop :=
  ∃ left right : String, AllBlank left ∧ AllBlank right ∧
    lookup property = some (left ++ text ++ right)

theorem millis?_eq_some_iff (whole : String) (ms : Nat) :
    millis? whole = some ms ↔
      ∃ text : String, Strips whole text ∧ Magnitude text.toList ms ∧ ms < millisLimit := by
  rw [millis?, below?_eq_some_iff, ← millisLimit]
  constructor
  · intro spelled
    exact ⟨trim whole, strips_trim whole, spelled⟩
  · rintro ⟨text, strips, spelled⟩
    rw [(trim_eq_iff whole text).mpr strips]
    exact spelled

theorem bind_millis?_eq_some_iff (raw : Option String) (ms : Nat) :
    raw.bind millis? = some ms ↔ SpellsMillis raw ms := by
  rw [Option.bind_eq_some_iff]
  constructor
  · rintro ⟨whole, present, read⟩
    obtain ⟨text, spelled⟩ := (millis?_eq_some_iff whole ms).mp read
    exact ⟨whole, text, present, spelled⟩
  · rintro ⟨whole, text, present, spelled⟩
    exact ⟨whole, present, (millis?_eq_some_iff whole ms).mpr ⟨text, spelled⟩⟩

theorem filter_millis?_eq_some_iff (raw : Option String) (ms : Nat) :
    (raw.bind millis?).filter (0 < ·) = some ms ↔ SpellsMillis raw ms ∧ 0 < ms := by
  rw [Option.filter_eq_some_iff, bind_millis?_eq_some_iff, decide_eq_true_eq]

theorem bind_node?_eq_some_iff (raw : Option String) (node : String) :
    raw.bind node? = some node ↔ SpellsNode raw node := by
  rw [Option.bind_eq_some_iff]
  refine exists_congr fun whole => and_congr_right fun _ => ?_
  rw [node?, Option.ite_none_left_eq_some, Option.some_inj, ← trim_eq_iff]
  constructor
  · rintro ⟨visible, rfl⟩
    exact ⟨rfl, visible⟩
  · rintro ⟨rfl, visible⟩
    exact ⟨visible, rfl⟩

theorem getD_eq_iff_overrides {α : Type} (found : Option α) (spelled : α → Prop)
    (law : ∀ value : α, found = some value ↔ spelled value) (fallback value : α) :
    found.getD fallback = value ↔ Overrides spelled fallback value := by
  cases found with
  | none =>
    have unspelled (other : α) : ¬ spelled other := by
      intro given
      cases (law other).mpr given
    constructor
    · rintro rfl
      exact .inr ⟨rfl, unspelled⟩
    · rintro (given | ⟨rfl, -⟩)
      · exact absurd given (unspelled value)
      · rfl
  | some given =>
    constructor
    · rintro rfl
      exact .inl ((law given).mp rfl)
    · rintro (read | ⟨-, unspelled⟩)
      · exact Option.some.inj ((law value).mpr read)
      · exact absurd ((law given).mp rfl) (unspelled given)

theorem millis_eq_iff_overrides (found : Option Nat) (spelled : Nat → Prop)
    (law : ∀ ms : Nat, found = some ms ↔ spelled ms) (fallback ms : Nat) :
    (found.map Span.ofMillis).getD (Span.ofMillis fallback) = Span.ofMillis ms ↔
      Overrides spelled fallback ms := by
  rw [Option.getD_map, ← getD_eq_iff_overrides found spelled law]
  constructor
  · exact Span.ofMillis_injective _ _
  · exact congrArg Span.ofMillis

/-! ## Fields -/

theorem debounce_eq_iff (lookup : String → Option String) (ms : Nat) :
    (ofLookup lookup).debounce = Span.ofMillis ms ↔
      Overrides (SpellsMillis (lookup debounceProperty)) 500 ms :=
  millis_eq_iff_overrides _ _ (bind_millis?_eq_some_iff (lookup debounceProperty)) 500 ms

theorem poll_eq_iff (lookup : String → Option String) (ms : Nat) :
    (ofLookup lookup).poll = Span.ofMillis ms ↔
      Overrides (fun ms => SpellsMillis (lookup pollProperty) ms ∧ 0 < ms) 100 ms :=
  millis_eq_iff_overrides _ _ (filter_millis?_eq_some_iff (lookup pollProperty)) 100 ms

theorem node_eq_iff (lookup : String → Option String) (node : String) :
    (ofLookup lookup).node = node ↔
      Overrides (SpellsNode (lookup nodeProperty)) defaultNode node :=
  getD_eq_iff_overrides _ _ (bind_node?_eq_some_iff (lookup nodeProperty)) defaultNode node

theorem debug_eq_true_iff (lookup : String → Option String) :
    (ofLookup lookup).debug = true ↔ lookup debugProperty = some "true" :=
  decide_eq_true_iff

theorem total_poll_pos (lookup : String → Option String) : 0 < (ofLookup lookup).poll.total := by
  have given : ∃ ms : Nat, (ofLookup lookup).poll = Span.ofMillis ms :=
    ⟨_, Option.getD_map Span.ofMillis 100 _⟩
  obtain ⟨ms, same⟩ := given
  have positive : 0 < ms := by
    rcases (poll_eq_iff lookup ms).mp same with ⟨-, positive⟩ | ⟨rfl, -⟩
    · exact positive
    · decide
  rw [same, Span.total_ofMillis]
  omega

/-! ## Written configurations -/

theorem spellsMillis_of_writes (lookup : String → Option String) (property : String) (ms : Nat)
    (written : Writes lookup property (toString ms)) (small : ms < millisLimit) :
    SpellsMillis (lookup property) ms := by
  obtain ⟨left, right, blankLeft, blankRight, present⟩ := written
  have spelled : Magnitude (toString ms).toList ms := .unsigned _ ms (digits_toString ms)
  have trimmed : Trimmed (toString ms) := Integer.trimmed (.magnitude _ ms spelled)
  exact ⟨_, toString ms, present, ⟨trimmed, left, right, blankLeft, blankRight, rfl⟩, spelled,
    small⟩

theorem spellsNode_of_writes (lookup : String → Option String) (node : String)
    (written : Writes lookup nodeProperty node) (visible : node ≠ "") (trimmed : trim node = node) :
    SpellsNode (lookup nodeProperty) node := by
  obtain ⟨left, right, blankLeft, blankRight, present⟩ := written
  exact ⟨_, present, ⟨(trim_eq_self_iff node).mp trimmed, left, right, blankLeft, blankRight, rfl⟩,
    visible⟩

def flagText (debug : Bool) : String :=
  if debug then "true" else "false"

theorem ofLookup_of_writes (lookup : String → Option String) (debounce poll : Nat) (node : String)
    (debug : Bool) (debounceFits : debounce < millisLimit) (pollFits : poll < millisLimit)
    (pollPositive : 0 < poll) (visible : node ≠ "") (trimmed : trim node = node)
    (debounceWritten : Writes lookup debounceProperty (toString debounce))
    (pollWritten : Writes lookup pollProperty (toString poll))
    (nodeWritten : Writes lookup nodeProperty node)
    (debugWritten : lookup debugProperty = some (flagText debug)) :
    ofLookup lookup =
      ⟨node, defaultStem, Span.ofMillis debounce, Span.ofMillis poll, debug⟩ := by
  have sameNode : (ofLookup lookup).node = node :=
    (node_eq_iff lookup node).mpr
      (.inl (spellsNode_of_writes lookup node nodeWritten visible trimmed))
  have sameDebounce : (ofLookup lookup).debounce = Span.ofMillis debounce :=
    (debounce_eq_iff lookup debounce).mpr
      (.inl (spellsMillis_of_writes lookup _ debounce debounceWritten debounceFits))
  have samePoll : (ofLookup lookup).poll = Span.ofMillis poll :=
    (poll_eq_iff lookup poll).mpr
      (.inl ⟨spellsMillis_of_writes lookup _ poll pollWritten pollFits, pollPositive⟩)
  have sameDebug : (ofLookup lookup).debug = debug := by
    rw [Bool.eq_iff_iff, debug_eq_true_iff, debugWritten]
    cases debug <;> decide
  rw [← sameNode, ← sameDebounce, ← samePoll, ← sameDebug]
  rfl

/-- Whatever texts the properties have: the debounce interval is the number of milliseconds
that its text spells, or 500; the pause between polls is likewise, if that number is not zero,
or 100, and so never empty; the node is its trimmed text when that is not empty; the debug
flag is on for the exact text only; and the stem is fixed.  The properties are four different
ones, and each field follows from the text of its own.  A configuration whose intervals are
written in decimal is read back, whatever blank characters surround its texts. -/
theorem reads_each_property (lookup : String → Option String) :
    (∀ ms : Nat, (ofLookup lookup).debounce = Span.ofMillis ms ↔
        Overrides (SpellsMillis (lookup debounceProperty)) 500 ms) ∧
      (∀ ms : Nat, (ofLookup lookup).poll = Span.ofMillis ms ↔
        Overrides (fun ms => SpellsMillis (lookup pollProperty) ms ∧ 0 < ms) 100 ms) ∧
      0 < (ofLookup lookup).poll.total ∧
      (∀ node : String, (ofLookup lookup).node = node ↔
        Overrides (SpellsNode (lookup nodeProperty)) defaultNode node) ∧
      ((ofLookup lookup).debug = true ↔ lookup debugProperty = some "true") ∧
      (ofLookup lookup).stem = defaultStem ∧
      [nodeProperty, debounceProperty, pollProperty, debugProperty].Nodup ∧
      (∀ other : String → Option String,
        (lookup nodeProperty = other nodeProperty →
          (ofLookup lookup).node = (ofLookup other).node) ∧
        (lookup debounceProperty = other debounceProperty →
          (ofLookup lookup).debounce = (ofLookup other).debounce) ∧
        (lookup pollProperty = other pollProperty →
          (ofLookup lookup).poll = (ofLookup other).poll) ∧
        (lookup debugProperty = other debugProperty →
          (ofLookup lookup).debug = (ofLookup other).debug)) ∧
      ∀ (debounce poll : Nat) (node : String) (debug : Bool),
        debounce < millisLimit → poll < millisLimit → 0 < poll → node ≠ "" → trim node = node →
          Writes lookup debounceProperty (toString debounce) →
          Writes lookup pollProperty (toString poll) →
          Writes lookup nodeProperty node →
          lookup debugProperty = some (flagText debug) →
            ofLookup lookup =
              ⟨node, defaultStem, Span.ofMillis debounce, Span.ofMillis poll, debug⟩ := by
  refine ⟨debounce_eq_iff lookup, poll_eq_iff lookup, total_poll_pos lookup, node_eq_iff lookup,
    debug_eq_true_iff lookup, rfl, by decide, ?_, ofLookup_of_writes lookup⟩
  intro other
  refine ⟨?_, ?_, ?_, ?_⟩
  · intro same
    change (_ : Option String).getD _ = (_ : Option String).getD _
    rw [same]
  · intro same
    change (Option.map _ _).getD _ = (Option.map _ _).getD _
    rw [same]
  · intro same
    change (Option.map _ _).getD _ = (Option.map _ _).getD _
    rw [same]
  · intro same
    change decide _ = decide _
    rw [same]

def spelledOut (property : String) : Option String :=
  if property = nodeProperty then some "  /tmp/gesture mode\n"
  else if property = debounceProperty then some "\u300018446744073709551615\t"
  else if property = pollProperty then some "1"
  else some "true"

theorem reads_each_property_spelledOut :
    ofLookup spelledOut = ⟨"/tmp/gesture mode", defaultStem,
        Span.ofMillis 18446744073709551615, Span.ofMillis 1, true⟩ ∧
      (ofLookup spelledOut).poll =
        (ofLookup fun property => if property = debounceProperty then none
          else spelledOut property).poll := by
  obtain ⟨-, -, -, -, -, -, -, independent, written⟩ := reads_each_property spelledOut
  constructor
  · refine written 18446744073709551615 1 "/tmp/gesture mode" true (by decide) (by decide)
      (by decide) (by decide) (by decide) ⟨"\u3000", "\t", ?_, ?_, rfl⟩ ⟨"", "", ?_, ?_, rfl⟩
      ⟨"  ", "\n", ?_, ?_, rfl⟩ rfl
    all_goals
      rw [allBlank_iff]
      decide
  · exact (independent _).2.2.1 rfl

end Config

end GestureMode
