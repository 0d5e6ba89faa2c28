import PlaygroundShell.JsString

/-!
# The history ring

`PgShellHistory` (shell-history.ts) is not in src; part_004 calls its `push`, `getPrevious`,
`getNext` and `getEntries`. It is modelled from the spec (§3 and §4.3): a ring of at most `size`
lines, oldest first, with a traversal cursor that is `none` except while the user walks the ring.
`push` resets the cursor and appends the line only if it is not empty, evicting the oldest entry
once the ring is over capacity.

Results:
* `entries_push_foldl`: after any sequence of pushes the ring holds the last `size` non-empty
  lines pushed, oldest first (the spec's property 2).
* `previousValues_bottom`: walking back from the bottom visits the entries newest to oldest and
  then returns nothing, never passing the oldest (the spec's property 3).
* `WellFormed.push`: pushing a trimmed line keeps the ring within its size and free of empty or
  untrimmed lines.
-/

namespace PlaygroundShell

/-- Modelled from the spec: `PgShellHistory`, whose source is not in src. -/
structure PgShellHistory where
  size : Nat
  entries : List JsString
  cursor : Option Nat
  deriving DecidableEq, Repr

namespace PgShellHistory

/-- Modelled from the spec: `new PgShellHistory(size)`. -/
def new (size : Nat) : PgShellHistory := ⟨size, [], none⟩

/-- Modelled from the spec: `push(entry)` resets the traversal cursor and appends `entry` if it
    is not empty; once the ring is over capacity the oldest entry is evicted. -/
def push (h : PgShellHistory) (entry : JsString) : PgShellHistory :=
  if entry = [] then { h with cursor := none }
  else
    let entries := h.entries ++ [entry]
    { h with entries := if h.size < entries.length then entries.tail else entries, cursor := none }

/-- Modelled from the spec: `getPrevious()` steps the cursor one entry towards the oldest and
    returns that entry; at the oldest, or on an empty ring, it returns nothing. -/
def getPrevious (h : PgShellHistory) : PgShellHistory × Option JsString :=
  match h.cursor with
  | none =>
    if h.entries = [] then (h, none)
    else ({ h with cursor := some (h.entries.length - 1) }, h.entries.getLast?)
  | some 0 => (h, none)
  | some (i + 1) => ({ h with cursor := some i }, h.entries[i]?)

/-- Modelled from the spec: `getNext()` steps the cursor one entry towards the newest and returns
    that entry; past the newest it leaves the traversal and returns nothing (an empty line). -/
def getNext (h : PgShellHistory) : PgShellHistory × Option JsString :=
  match h.cursor with
  | none => (h, none)
  | some i =>
    if i + 1 < h.entries.length then ({ h with cursor := some (i + 1) }, h.entries[i + 1]?)
    else ({ h with cursor := none }, none)

/-- `getEntries()`: the ring, oldest first. -/
def getEntries (h : PgShellHistory) : List JsString := h.entries

@[simp] theorem push_size (h : PgShellHistory) (e : JsString) : (h.push e).size = h.size := by
  unfold push; split <;> rfl

@[simp] theorem push_cursor (h : PgShellHistory) (e : JsString) : (h.push e).cursor = none := by
  unfold push; split <;> rfl

/-! ## The ring stays well formed -/

/-- The ring holds at most `size` lines, none of them empty and each trimmed. -/
structure WellFormed (h : PgShellHistory) : Prop where
  bounded : h.entries.length ≤ h.size
  lines : ∀ e ∈ h.entries, e ≠ [] ∧ trim e = e

theorem WellFormed.of_eq {h h' : PgShellHistory} (he : h'.entries = h.entries)
    (hs : h'.size = h.size) (hw : h.WellFormed) : h'.WellFormed :=
  ⟨he ▸ hs ▸ hw.bounded, he ▸ hw.lines⟩

theorem wellFormed_new (size : Nat) : (new size).WellFormed :=
  ⟨Nat.zero_le _, fun _ h => absurd h (List.not_mem_nil _)⟩

/-- Pushing a trimmed line keeps the ring well formed: an empty one is dropped, and the oldest
    entry is evicted once the ring is over capacity. -/
theorem WellFormed.push {h : PgShellHistory} (hw : h.WellFormed) {e : JsString}
    (he : trim e = e) : (h.push e).WellFormed := by
  unfold PgShellHistory.push
  split
  · exact ⟨hw.bounded, hw.lines⟩
  · rename_i hne
    have hl : ∀ x ∈ h.entries ++ [e], x ≠ [] ∧ trim x = x := by
      intro x hx
      rcases List.mem_append.mp hx with hx | hx
      · exact hw.lines x hx
      · rw [List.mem_singleton.mp hx]
        exact ⟨hne, he⟩
    dsimp only
    split
    · exact ⟨by simpa using hw.bounded, fun x hx => hl x (List.mem_of_mem_tail hx)⟩
    · exact ⟨Nat.le_of_not_lt ‹_›, hl⟩

@[simp] theorem getPrevious_entries (h : PgShellHistory) :
    h.getPrevious.1.entries = h.entries := by
  unfold getPrevious
  split <;> (try split) <;> rfl

@[simp] theorem getPrevious_size (h : PgShellHistory) : h.getPrevious.1.size = h.size := by
  unfold getPrevious
  split <;> (try split) <;> rfl

@[simp] theorem getNext_entries (h : PgShellHistory) : h.getNext.1.entries = h.entries := by
  unfold getNext
  split <;> (try split) <;> rfl

@[simp] theorem getNext_size (h : PgShellHistory) : h.getNext.1.size = h.size := by
  unfold getNext
  split <;> (try split) <;> rfl

/-- A ring with the entries and size of `h` is `h` with another traversal cursor. -/
theorem with_cursor_eq {h h' : PgShellHistory} (he : h'.entries = h.entries)
    (hs : h'.size = h.size) : { h with cursor := h'.cursor } = h' := by
  obtain ⟨size, entries, cursor⟩ := h'
  dsimp only at he hs
  subst he hs
  rfl

/-! ## Walking the ring -/

theorem getPrevious_bottom {h : PgShellHistory} (hc : h.cursor = none) {l : List JsString}
    {e : JsString} (he : h.entries = l ++ [e]) :
    h.getPrevious = ({ h with cursor := some l.length }, some e) := by
  simp [getPrevious, hc, he]

theorem getPrevious_succ {h : PgShellHistory} {i : Nat} (hc : h.cursor = some (i + 1))
    (hi : i < h.entries.length) :
    h.getPrevious = ({ h with cursor := some i }, some h.entries[i]) := by
  simp [getPrevious, hc, List.getElem?_eq_getElem hi]

theorem getPrevious_zero {h : PgShellHistory} (hc : h.cursor = some 0) :
    h.getPrevious = (h, none) := by
  simp [getPrevious, hc]

theorem getNext_succ {h : PgShellHistory} {i : Nat} (hc : h.cursor = some i)
    (hi : i + 1 < h.entries.length) :
    h.getNext = ({ h with cursor := some (i + 1) }, some h.entries[i + 1]) := by
  simp [getNext, hc, hi, List.getElem?_eq_getElem hi]

theorem getNext_last {h : PgShellHistory} {i : Nat} (hc : h.cursor = some i)
    (hi : h.entries.length ≤ i + 1) : h.getNext = ({ h with cursor := none }, none) := by
  simp [getNext, hc, Nat.not_lt.mpr hi]

/-- The last `n` elements of `l`. -/
def lastN {α : Type} (n : Nat) (l : List α) : List α := l.drop (l.length - n)

theorem lastN_concat {α : Type} (n : Nat) (l : List α) (e : α) :
    (if n < (lastN n l ++ [e]).length then (lastN n l ++ [e]).tail else lastN n l ++ [e]) =
      lastN n (l ++ [e]) := by
  unfold lastN
  rw [← List.drop_append_of_le_length (by omega)]
  split_ifs with h
  · simp only [List.length_append, List.length_drop, List.length_singleton] at h
    rw [← List.drop_one, List.drop_drop, List.length_append, List.length_singleton]
    congr 1; omega
  · simp only [List.length_append, List.length_drop, List.length_singleton] at h
    rw [List.length_append, List.length_singleton]
    congr 1; omega

/-- A push onto a ring holding the last `size` lines of `l` holds the last `size` of `l` and the
    line, if the line is not empty. -/
theorem entries_push {h : PgShellHistory} {l : List JsString} (hl : h.entries = lastN h.size l)
    (e : JsString) : (h.push e).entries = lastN h.size (l ++ [e].filter (· ≠ [])) := by
  unfold push
  split
  · simp_all [lastN]
  · simp only [hl, ne_eq, List.filter_cons_of_pos (p := fun x => decide (x ≠ [])) (by simpa),
      List.filter_nil]
    exact lastN_concat _ _ _

/-- The spec's property 2: the ring keeps the last `size` non-empty lines pushed, oldest
    first. -/
theorem entries_push_foldl (h : PgShellHistory) (l lines : List JsString)
    (hl : h.entries = lastN h.size l) :
    (lines.foldl push h).entries = lastN h.size (l ++ lines.filter (· ≠ [])) := by
  induction lines generalizing h l with
  | nil => simpa using hl
  | cons e lines ih =>
    rw [List.foldl_cons, ih (h.push e) (l ++ [e].filter (· ≠ [])) (by simpa using entries_push hl e),
      push_size, List.filter_cons, List.append_assoc]
    split <;> simp_all

theorem entries_new_push_foldl (size : Nat) (lines : List JsString) :
    (lines.foldl push (new size)).entries = lastN size (lines.filter (· ≠ [])) := by
  simpa using entries_push_foldl (new size) [] lines (by simp [new, lastN])

/-- What `n` successive `getPrevious()` calls return. -/
def previousValues : Nat → PgShellHistory → List (Option JsString)
  | 0, _ => []
  | n + 1, h => h.getPrevious.2 :: previousValues n h.getPrevious.1

theorem previousValues_cursor (i : Nat) {h : PgShellHistory} (hi : i < h.entries.length)
    (hc : h.cursor = some i) :
    previousValues (i + 1) h = (h.entries.take i).reverse.map some ++ [none] := by
  induction i generalizing h with
  | zero => simp [previousValues, getPrevious, hc]
  | succ i ih =>
    have hi' : i < h.entries.length := Nat.lt_of_succ_lt hi
    have hg : h.getPrevious = ({ h with cursor := some i }, some h.entries[i]) := by
      simp [getPrevious, hc, List.getElem?_eq_getElem hi']
    rw [previousValues, hg]
    dsimp only
    rw [ih (h := { h with cursor := some i }) hi' rfl, List.take_succ, List.getElem?_eq_getElem hi']
    simp only [Option.toList_some, List.reverse_append, List.reverse_singleton, List.singleton_append,
      List.map_cons, List.cons_append, List.nil_append]

/-- The spec's property 3: walking back from the bottom returns the entries newest to oldest,
    then nothing, and never passes the oldest. -/
theorem previousValues_bottom {h : PgShellHistory} (hc : h.cursor = none) :
    previousValues (h.entries.length + 1) h = h.entries.reverse.map some ++ [none] := by
  rcases List.eq_nil_or_concat h.entries with he | ⟨l, e, he⟩
  · simp [previousValues, getPrevious, hc, he]
  · rw [List.concat_eq_append] at he
    have hg : h.getPrevious = ({ h with cursor := some l.length }, some e) := by
      simp [getPrevious, hc, he]
    rw [he, List.length_append, List.length_singleton, previousValues, hg]
    dsimp only
    rw [previousValues_cursor (h := { h with cursor := some l.length }) l.length (by simp [he]) rfl]
    simp [he]

end PgShellHistory

end PlaygroundShell
