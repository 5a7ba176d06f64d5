import GestureMode.Node.Sink
import GestureMode.Proofs.Latest
import Mathlib.Data.List.TakeDrop

/-!
# What the node holds

A line is written by one opening, which empties the node, and one write, which may fail or
store its first bytes only.  However the system answers the calls: a node that cannot be
opened stays as it is, and is not created; otherwise nothing of an earlier content is left.
So the node holds what it held in the beginning, or the first bytes of the latest line for
which it was opened, and all of them exactly when that call did not fail.
-/

set_option autoImplicit false

namespace GestureMode

namespace FileTree

def replace (tree : FileTree) (location : Location) (content : List UInt8) : FileTree :=
  { tree with files := tree.files.put location (.regular content) }

variable (tree : FileTree) (location : Location) (old : List UInt8)

theorem get?_of_file? (holds : tree.file? location = some (.regular old)) :
    tree.files.get? location = some (.regular old) := by
  rw [file?] at holds
  split at holds
  · next file present =>
    rw [present, holds]
  · split at holds <;> cases holds

theorem file?_replace (content : List UInt8) : (tree.replace location content).file? location =
    some (.regular content) := by
  rw [file?, replace, Entries.get?_put_self]

theorem file?_replace_of_ne (holds : tree.file? location = some (.regular old))
    (content : List UInt8) (other : Location) (different : other ≠ location) :
    (tree.replace location content).file? other = tree.file? other := by
  have present := tree.get?_of_file? location old holds
  rw [file?, file?, replace, Entries.get?_put_of_ne _ _ _ _ different,
    Entries.map_fst_put _ _ _ _ present]

section Replaced

variable (holds : tree.file? location = some (.regular old)) (content : List UInt8)

include holds

theorem file?_replace_eq_directory_iff (other : Location) :
    (tree.replace location content).file? other = some .directory ↔
      tree.file? other = some .directory := by
  by_cases same : other = location
  · rw [same, file?_replace, holds]
    exact iff_of_false (by simp) (by simp)
  · rw [tree.file?_replace_of_ne location old holds content other same]

theorem isSome_file?_replace (other : Location) :
    ((tree.replace location content).file? other).isSome = (tree.file? other).isSome := by
  by_cases same : other = location
  · rw [same, file?_replace, holds]
    rfl
  · rw [tree.file?_replace_of_ne location old holds content other same]

theorem enter_replace (here : Location) (piece : String) :
    (tree.replace location content).enter here piece = tree.enter here piece := by
  simp only [FileTree.enter, ne_eq, tree.file?_replace_eq_directory_iff location old holds,
    tree.isSome_file?_replace location old holds]

theorem follow_replace (here : Location) (pieces : List String) :
    (tree.replace location content).follow here pieces = tree.follow here pieces := by
  induction pieces generalizing here with
  | nil => rfl
  | cons piece rest ih =>
    rw [FileTree.follow, FileTree.follow, tree.enter_replace location old holds]
    cases tree.enter here piece with
    | error cause => rfl
    | ok there => exact ih there

/-- A path leads to where it led before, since no file comes, goes or becomes a directory. -/
theorem locate_replace (path : String) :
    (tree.replace location content).locate path = tree.locate path := by
  simp only [locate, tree.follow_replace location old holds]
  rfl

end Replaced

variable (path : String) (bytes : List UInt8) (delivery : Delivery)

theorem content?_eq_some_iff (content : List UInt8) :
    tree.content? path = some content ↔ ∃ location : Location,
      tree.locate path = .ok location ∧ tree.file? location = some (.regular content) := by
  constructor
  · intro held
    rw [content?] at held
    split at held
    · cases held
    · next location located =>
      split at held
      · next found holds =>
        injection held with same
        subst same
        exact ⟨location, located, holds⟩
      · cases held
  · rintro ⟨location, located, holds⟩
    rw [content?, located]
    simp only [holds]

theorem settle_eq_replace (located : tree.locate path = .ok location)
    (holds : tree.file? location = some (.regular old)) :
    tree.settle path bytes delivery =
      tree.replace location (contentAfter old bytes delivery) := by
  rw [settle, located]
  simp only [holds]
  rfl

theorem content?_settle (held : tree.content? path = some old) :
    (tree.settle path bytes delivery).content? path =
      some (contentAfter old bytes delivery) := by
  obtain ⟨location, located, holds⟩ := (tree.content?_eq_some_iff path old).mp held
  rw [content?_eq_some_iff, tree.settle_eq_replace location old path bytes delivery located holds]
  exact ⟨location, (tree.locate_replace location old holds _ path).trans located,
    tree.file?_replace location _⟩

theorem settle_unopened (cause : Cause) : tree.settle path bytes (.unopened cause) = tree := by
  rw [settle]
  split
  · rfl
  · next location located =>
    split
    · next content holds =>
      have same : tree.files.put location (.regular content) = tree.files :=
        (Entries.put_eq_self_iff _ _ _).mpr (tree.get?_of_file? location content holds)
      rw [contentAfter, same]
    · rfl

theorem exists_unopened (length : Nat) (absent : ¬ ∃ (location : Location) (file : File),
    tree.locate path = .ok location ∧ tree.file? location = some file) :
    ∃ cause : Cause, tree.delivery path length = .unopened cause := by
  rw [FileTree.delivery]
  cases located : tree.locate path with
  | error cause => exact ⟨cause, rfl⟩
  | ok location =>
    cases found : tree.file? location with
    | none => exact ⟨.notFound, by simp only [found]⟩
    | some file => exact absurd ⟨location, file, located, found⟩ absent

theorem count_le_of_stored (length count : Nat)
    (stored : tree.delivery path length = .stored count) : count ≤ length := by
  rw [FileTree.delivery] at stored
  cases located : tree.locate path with
  | error cause =>
    rw [located] at stored
    cases stored
  | ok location =>
    rw [located] at stored
    cases found : tree.file? location with
    | none =>
      simp only [found] at stored
      cases stored
    | some file =>
      simp only [found] at stored
      cases file with
      | directory | sealed cause | full => cases stored
      | discarding =>
        cases stored
        exact Nat.le_refl length
      | regular content =>
        cases limited : tree.sizeLimit with
        | none =>
          simp only [limited] at stored
          cases stored
          exact Nat.le_refl length
        | some limit =>
          simp only [limited] at stored
          split at stored
          · cases stored
            exact Nat.le_refl length
          · next large =>
            split at stored
            · cases stored
            · cases stored
              exact Nat.le_of_not_ge large

end FileTree

/-! ## Calls and how they are answered -/

/-- A line to be written, and how the system answers. -/
structure NodeCall where
  line : String
  delivery : Delivery

namespace NodeCall

def bytes (call : NodeCall) : List UInt8 :=
  Text.Utf8.encode call.line ++ [0x0A]

def Opens (call : NodeCall) : Prop :=
  match call.delivery with
  | .unopened _ => False
  | .refused _ | .stored _ => True

def count (call : NodeCall) : Nat :=
  match call.delivery with
  | .unopened _ | .refused _ => 0
  | .stored count => count

def stored (call : NodeCall) : List UInt8 :=
  call.bytes.take call.count

theorem contentAfter_of_opens (call : NodeCall) (old : List UInt8) (opens : call.Opens) :
    FileTree.contentAfter old call.bytes call.delivery = call.stored := by
  obtain ⟨line, delivery⟩ := call
  cases delivery with
  | unopened cause => exact opens.elim
  | refused cause | stored count => rfl

theorem exists_unopened (call : NodeCall) (closed : ¬ call.Opens) :
    ∃ cause : Cause, call.delivery = .unopened cause := by
  obtain ⟨line, delivery⟩ := call
  cases delivery with
  | unopened cause => exact ⟨cause, rfl⟩
  | refused cause | stored count => exact absurd trivial closed

theorem bytes_ne_nil (call : NodeCall) : call.bytes ≠ [] :=
  List.concat_ne_nil _ _

end NodeCall

namespace DeviceNode

def content? (node : DeviceNode) : Option (List UInt8) :=
  node.tree.content? node.path

/-- The path leads to a file of some kind. -/
def Present (node : DeviceNode) : Prop :=
  ∃ (location : Location) (file : File),
    node.tree.locate node.path = .ok location ∧ node.tree.file? location = some file

/-- The system opens no node that is not there, and takes no more bytes than it gets. -/
structure CanAnswer (node : DeviceNode) (call : NodeCall) : Prop where
  present : call.Opens → node.Present
  count_le : call.count ≤ call.bytes.length

/-- Writes the line of a call that the system answers in this way. -/
def answered (node : DeviceNode) (call : NodeCall) : DeviceNode × Option Failure :=
  ({ node with tree := node.tree.settle node.path call.bytes call.delivery },
    call.delivery.failure? node.path call.bytes.length)

def step (node : DeviceNode) (call : NodeCall) : DeviceNode :=
  (node.answered call).1

def after (node : DeviceNode) (calls : List NodeCall) : DeviceNode :=
  calls.foldl step node

def CanAnswerAll (node : DeviceNode) : List NodeCall → Prop
  | [] => True
  | call :: rest => node.CanAnswer call ∧ (node.step call).CanAnswerAll rest

theorem answered_unopened (node : DeviceNode) (line : String) (cause : Cause) :
    node.answered ⟨line, .unopened cause⟩ = (node, some (.opening node.path cause)) := by
  rw [answered, node.tree.settle_unopened]
  rfl

theorem step_of_not_opens (node : DeviceNode) (call : NodeCall) (closed : ¬ call.Opens) :
    node.step call = node := by
  obtain ⟨cause, unopened⟩ := call.exists_unopened closed
  obtain ⟨line, delivery⟩ := call
  rw [step, show delivery = .unopened cause from unopened, answered_unopened]

theorem content?_step (node : DeviceNode) (call : NodeCall) (old : List UInt8)
    (held : node.content? = some old) :
    (node.step call).content? =
      some (FileTree.contentAfter old call.bytes call.delivery) :=
  node.tree.content?_settle old node.path call.bytes call.delivery held

theorem failure_answered (node : DeviceNode) (call : NodeCall) (can : node.CanAnswer call)
    (opens : call.Opens) :
    ((node.answered call).2 = none ↔ call.stored = call.bytes) ∧
      ((node.answered call).2 = none ∨
        ∃ cause : Cause, (node.answered call).2 = some (.writing node.path cause)) := by
  have most := can.count_le
  have nonempty : 0 < call.bytes.length := List.length_pos_iff.mpr call.bytes_ne_nil
  have whole : call.stored = call.bytes ↔ call.count = call.bytes.length := by
    rw [NodeCall.stored, List.take_eq_self_iff]
    omega
  rw [whole]
  obtain ⟨line, delivery⟩ := call
  cases delivery with
  | unopened cause => exact opens.elim
  | refused cause =>
    have answer : (node.answered ⟨line, .refused cause⟩).2 =
        some (.writing node.path cause) := rfl
    rw [answer]
    refine ⟨iff_of_false (by simp) (Nat.ne_of_lt nonempty), .inr ⟨cause, rfl⟩⟩
  | stored count =>
    have answer : (node.answered ⟨line, .stored count⟩).2 =
        if count = (Text.Utf8.encode line ++ [0x0A]).length then none
        else some (.writing node.path .shortWrite) := rfl
    rw [answer]
    split
    · next all => exact ⟨iff_of_true rfl all, .inl rfl⟩
    · next short => exact ⟨iff_of_false (by simp) short, .inr ⟨_, rfl⟩⟩

theorem path_after (node : DeviceNode) (calls : List NodeCall) :
    (node.after calls).path = node.path := by
  induction calls generalizing node with
  | nil => rfl
  | cons call rest ih => exact ih (node.step call)

theorem content?_after (node : DeviceNode) (calls : List NodeCall) (old : List UInt8)
    (held : node.content? = some old) :
    ∃ now : List UInt8, (node.after calls).content? = some now := by
  induction calls generalizing node old with
  | nil => exact ⟨old, held⟩
  | cons call rest ih => exact ih (node.step call) _ (node.content?_step call old held)

theorem canAnswer_of_split (node : DeviceNode) (before after : List NodeCall) (call : NodeCall)
    (can : node.CanAnswerAll (before ++ call :: after)) : (node.after before).CanAnswer call := by
  induction before generalizing node with
  | nil => exact can.1
  | cons first rest ih => exact ih (node.step first) can.2

/-- The node is what the latest call that opened it made of it. -/
theorem decides_node : Decides step id (fun _ call => call.Opens) step where
  decided _ _ _ := rfl
  kept node call closed := node.step_of_not_opens call closed

theorem not_present_after (node : DeviceNode) (calls : List NodeCall)
    (can : node.CanAnswerAll calls) (absent : ¬ node.Present) :
    node.after calls = node ∧ ∀ call ∈ calls, ¬ call.Opens := by
  induction calls with
  | nil => exact ⟨rfl, fun _ impossible => absurd impossible List.not_mem_nil⟩
  | cons call rest ih =>
    have closed : ¬ call.Opens := fun opens => absent (can.1.present opens)
    have same := node.step_of_not_opens call closed
    have later := can.2
    rw [same] at later
    obtain ⟨kept, unopened⟩ := ih later
    refine ⟨?_, List.forall_mem_cons.mpr ⟨closed, unopened⟩⟩
    rw [after, List.foldl_cons, same]
    exact kept

/-! ## Nodes that answer from their own tree -/

def callOf (node : DeviceNode) (line : String) : NodeCall :=
  ⟨line, node.tree.delivery node.path (Text.Utf8.encode line ++ [0x0A]).length⟩

def callsOf (node : DeviceNode) : List String → List NodeCall
  | [] => []
  | line :: rest => node.callOf line :: (node.deliver line).1.callsOf rest

theorem deliver_eq_answered (node : DeviceNode) (line : String) :
    node.deliver line = node.answered (node.callOf line) :=
  rfl

theorem canAnswer_callOf (node : DeviceNode) (line : String) :
    node.CanAnswer (node.callOf line) where
  present opens := by
    by_contra absent
    obtain ⟨cause, unopened⟩ := node.tree.exists_unopened node.path _ absent
    rw [callOf, unopened] at opens
    exact opens
  count_le := by
    cases answer : node.tree.delivery node.path (Text.Utf8.encode line ++ [0x0A]).length with
    | unopened cause | refused cause =>
      rw [callOf, answer]
      exact Nat.zero_le _
    | stored count =>
      rw [callOf, answer]
      exact node.tree.count_le_of_stored node.path _ count answer

theorem canAnswerAll_callsOf (node : DeviceNode) (lines : List String) :
    node.CanAnswerAll (node.callsOf lines) := by
  induction lines generalizing node with
  | nil => trivial
  | cons line rest ih => exact ⟨node.canAnswer_callOf line, ih (node.deliver line).1⟩

theorem after_callsOf (node : DeviceNode) (lines : List String) :
    node.after (node.callsOf lines) =
      lines.foldl (fun node line => (node.deliver line).1) node := by
  induction lines generalizing node with
  | nil => rfl
  | cons line rest ih => exact ih (node.deliver line).1

/-- What a call left in the node that it opened: the first bytes of its line, and all of them
exactly when it did not fail. -/
structure Holds (node : DeviceNode) (call : NodeCall) (failure : Option Failure) : Prop where
  content : node.content? = some ((Text.Utf8.encode call.line ++ [0x0A]).take call.count)
  complete_iff : failure = none ↔ node.content? = some (Text.Utf8.encode call.line ++ [0x0A])
  fails_writing : failure = none ∨
    ∃ cause : Cause, failure = some (.writing node.path cause)

theorem holds_step (node : DeviceNode) (call : NodeCall) (old : List UInt8)
    (held : node.content? = some old) (can : node.CanAnswer call) (opens : call.Opens) :
    (node.step call).Holds call (node.answered call).2 := by
  obtain ⟨complete, writing⟩ := node.failure_answered call can opens
  have content : (node.step call).content? = some call.stored := by
    rw [node.content?_step call old held, call.contentAfter_of_opens old opens]
  refine ⟨content, ?_, writing⟩
  rw [complete, content, Option.some_inj]
  rfl

/-- Whatever a node holds, or if it is absent, and however the system answers the calls for
its lines: a call that cannot open the node fails with that and changes no file; one that
opens it leaves the first bytes of its own line and the end of the line, and does not fail
exactly when these are all.  In the end the node is untouched, or holds what the latest call
left that opened it.  An absent node stays absent.  What a node does with a line is such a call,
answered by its own tree. -/
theorem content_from_latest_opening (node : DeviceNode) (calls : List NodeCall)
    (can : node.CanAnswerAll calls) :
    (∀ (before after : List NodeCall) (call : NodeCall), calls = before ++ call :: after →
        (∀ cause : Cause, call.delivery = .unopened cause →
          (node.after before).answered call =
            (node.after before, some (.opening node.path cause))) ∧
        (node.content?.isSome = true → call.Opens →
          ((node.after before).step call).Holds call ((node.after before).answered call).2)) ∧
      (node.content?.isSome = true →
        ((∀ call ∈ calls, ¬ call.Opens) ∧ node.after calls = node) ∨
          ∃ (before after : List NodeCall) (call : NodeCall),
            calls = before ++ call :: after ∧ call.Opens ∧ (∀ later ∈ after, ¬ later.Opens) ∧
              (node.after calls).Holds call ((node.after before).answered call).2) ∧
      (¬ node.Present → node.after calls = node ∧ ∀ call ∈ calls, ¬ call.Opens) ∧
      (∀ (met : DeviceNode) (line : String),
        met.deliver line = met.answered (met.callOf line) ∧ (met.callOf line).line = line) ∧
      ∀ lines : List String, node.CanAnswerAll (node.callsOf lines) ∧
        node.after (node.callsOf lines) =
          lines.foldl (fun node line => (node.deliver line).1) node := by
  have opened (before after : List NodeCall) (call : NodeCall)
      (split : calls = before ++ call :: after) (held : node.content?.isSome = true)
      (opens : call.Opens) :
      ((node.after before).step call).Holds call ((node.after before).answered call).2 := by
    obtain ⟨initial, held⟩ := Option.isSome_iff_exists.mp held
    obtain ⟨old, met⟩ := node.content?_after before initial held
    rw [split] at can
    exact (node.after before).holds_step call old met
      (node.canAnswer_of_split before after call can) opens
  refine ⟨?_, ?_, node.not_present_after calls can,
    fun met line => ⟨met.deliver_eq_answered line, rfl⟩,
    fun lines => ⟨node.canAnswerAll_callsOf lines, node.after_callsOf lines⟩⟩
  · intro before after call split
    refine ⟨?_, opened before after call split⟩
    intro cause unopened
    obtain ⟨line, delivery⟩ := call
    rw [show delivery = .unopened cause from unopened, answered_unopened, path_after]
  · intro held
    rcases Undecided.or_exists_latest step (fun _ call => call.Opens) node calls with
      undecided | ⟨before, after, call, split, opens, latest⟩
    · exact .inl ⟨undecided.forall_mem, decides_node.view_of_undecided node calls undecided⟩
    · refine .inr ⟨before, after, call, split, opens, latest.forall_mem, ?_⟩
      have ended : node.after calls = (node.after before).step call := by
        rw [split]
        exact decides_node.view_of_latest node before after call opens latest
      rw [ended]
      exact opened before after call split held opens

def staleNode : DeviceNode :=
  ⟨"mode", .ofFiles ["tmp"] [("mode", .regular (Text.Utf8.encode "1111111\nstale\n"))] none⟩

/-- The node is written in full, then in part, and then cannot be opened. -/
def worsening : List NodeCall :=
  [⟨"1001010", .stored 8⟩, ⟨"1000100", .stored 3⟩, ⟨"0000000", .unopened (.code 13)⟩]

theorem canAnswerAll_worsening : staleNode.CanAnswerAll worsening := by
  refine ⟨⟨fun _ => ⟨["tmp", "mode"], _, rfl, rfl⟩, by decide⟩,
    ⟨fun _ => ⟨["tmp", "mode"], _, rfl, rfl⟩, by decide⟩, ⟨fun opens => opens.elim, by decide⟩,
    trivial⟩

/-- The start of the second line is all that is left, also after the third call.  Its own tree
would have taken the first line in full. -/
theorem content_from_latest_opening_worsening :
    let written := staleNode.after (worsening.take 2)
    written.Holds ⟨"1000100", .stored 3⟩ (some (.writing "mode" .shortWrite)) ∧
      written.answered ⟨"0000000", .unopened (.code 13)⟩ =
        (written, some (.opening "mode" (.code 13))) ∧
      staleNode.deliver "1001010" = staleNode.answered ⟨"1001010", .stored 8⟩ := by
  intro written
  obtain ⟨every, -, -, delivers, -⟩ :=
    content_from_latest_opening staleNode worsening canAnswerAll_worsening
  refine ⟨?_, ?_, ?_⟩
  · exact (every (worsening.take 1) (worsening.drop 2) ⟨"1000100", .stored 3⟩ rfl).2 rfl trivial
  · exact (every (worsening.take 2) [] ⟨"0000000", .unopened (.code 13)⟩ rfl).1 (.code 13) rfl
  · rw [(delivers staleNode "1001010").1]
    rfl

end DeviceNode

end GestureMode
