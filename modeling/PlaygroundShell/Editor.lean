import PlaygroundShell.Invariants

/-!
# The line editor refines a zipper

The editing keys of `_handleData` (src/unnamed/part_004:311-526) are specified against a
reference editor that keeps the line as a zipper: the text left of the cursor and the text right
of it. The code instead keeps the line and an integer cursor in the `PgTty`, computes new lines
with `substring`, and moves the cursor through `setCursorDirectly`, which does not clamp. The
refinement theorem says that the two agree on every chunk, from every reachable state.

Results:
* `handleTermData_refines`: from every reachable state, an inactive shell ignores every chunk,
  CTRL+C included; an active one leaves the line and cursor the reference editor computes, a
  pasted chunk being the reference run over its code points after every run of CR/LF became one
  CR.
* `handleData_refines`: the same for one logical key, the step of the paste's run.
-/

namespace PlaygroundShell

/-! ## The reference editor -/

/-- The line as a zipper: the units left of the cursor and the units right of it. -/
structure Zipper where
  left : JsString
  right : JsString
  deriving DecidableEq, Repr

namespace Zipper

/-- Typing `d`. -/
def insert (d : JsString) (z : Zipper) : Zipper := ⟨z.left ++ d, z.right⟩

/-- Erasing the unit left of the cursor. -/
def backspace (z : Zipper) : Zipper := ⟨z.left.dropLast, z.right⟩

/-- Erasing the unit right of the cursor. -/
def delete (z : Zipper) : Zipper := ⟨z.left, z.right.drop 1⟩

/-- One unit left. -/
def moveLeft (z : Zipper) : Zipper :=
  match z.left.getLast? with
  | some u => ⟨z.left.dropLast, u :: z.right⟩
  | none => z

/-- One unit right. -/
def moveRight (z : Zipper) : Zipper :=
  match z.right with
  | u :: r => ⟨z.left ++ [u], r⟩
  | [] => z

/-- To the start of the line. -/
def home (z : Zipper) : Zipper := ⟨[], z.left ++ z.right⟩

/-- To the end of the line. -/
def end_ (z : Zipper) : Zipper := ⟨z.left ++ z.right, []⟩

@[simp] theorem insert_nil (z : Zipper) : z.insert [] = z := by simp [insert]

end Zipper

/-- The edits the reference editor names. -/
inductive Edit
  | backspace
  | delete
  | left
  | right
  | home
  | end_
  | killRight
  | killLeft
  | clear
  | enter
  /-- Submission, completion, history and word motion, which the reference leaves to other
      laws. -/
  | undescribed
  deriving DecidableEq, Repr

namespace Edit

/-- The chunks that select each edit. -/
def keys : Edit → List JsString
  | backspace => [js "\x7F", js "\x08", js "\x04"]
  | delete => [js "\x1b[3~"]
  | left => [js "\x1b[D", js "\x02"]
  | right => [js "\x1b[C", js "\x06"]
  | home => [js "\x1b[H", js "\x01"]
  | end_ => [js "\x1b[F", js "\x05"]
  | killRight => [js "\x0b"]
  | killLeft => [js "\x15"]
  | clear => [js "\x07"]
  | enter => [js "\r"]
  | undescribed =>
    [js "\t", js "\x0e", js "\x10", js "\x1b[A", js "\x1b[B", js "\x1bb", js "\x1bf", js "\x1b\x7F"]

def all : List Edit :=
  [backspace, delete, left, right, home, end_, killRight, killLeft, clear, enter, undescribed]

/-- BACKSPACE, CTRL+H and CTRL+D drop the last unit of the left part, ESC[3~ the first of the
    right part; ESC[D and CTRL+B, ESC[C and CTRL+F move one unit; ESC[H and CTRL+A, ESC[F and
    CTRL+E go to the start and the end; CTRL+K and CTRL+U drop the right and the left part;
    CTRL+G empties the line; ENTER on an incomplete line types a line feed. `none` for what the
    reference does not describe. -/
def apply (isIncompleteInput : JsString → Bool) : Edit → Zipper → Option Zipper
  | backspace, z => some z.backspace
  | delete, z => some z.delete
  | left, z => some z.moveLeft
  | right, z => some z.moveRight
  | home, z => some z.home
  | end_, z => some z.end_
  | killRight, z => some ⟨z.left, []⟩
  | killLeft, z => some ⟨[], z.right⟩
  | clear, _ => some ⟨[], []⟩
  | enter, z => if isIncompleteInput (z.left ++ z.right) then some (z.insert (js "\n")) else none
  | undescribed, _ => none

end Edit

namespace Zipper

/-- The reference editor on one logical key: the edit the key names, if any; otherwise a chunk
    whose first unit is printable is typed and any other chunk changes nothing. -/
def key (isIncompleteInput : JsString → Bool) (d : JsString) (z : Zipper) : Option Zipper :=
  match Edit.all.find? (fun e => d ∈ e.keys) with
  | some e => e.apply isIncompleteInput z
  | none =>
    match d with
    | u :: _ => if 0x20 ≤ u ∧ u ≠ 0x7F then some (z.insert d) else some z
    | [] => some z

/-- The reference editor on one chunk: a chunk of more than three units whose first unit is not
    ESC is a paste, handled as its code points one by one after every run of CR and LF became one
    CR (`chunk_paste` states this through `CollapsesTo` and `CodePointsOf`). -/
def chunk (isIncompleteInput : JsString → Bool) (d : JsString) (z : Zipper) : Option Zipper :=
  if 3 < d.length ∧ d.head? ≠ some 0x1b then
    (codePoints (collapseNewlines d)).foldlM (fun z c => key isIncompleteInput c z) z
  else key isIncompleteInput d z

/-- A paste types, one by one, the code points `cs` of the chunk `d'` that `d` collapses to. -/
theorem chunk_paste (isIncompleteInput : JsString → Bool) {d d' : JsString}
    {cs : List JsString} (hp : 3 < d.length ∧ d.head? ≠ some 0x1b) (hd : CollapsesTo d d')
    (hc : CodePointsOf d' cs) (z : Zipper) :
    chunk isIncompleteInput d z = cs.foldlM (fun z c => key isIncompleteInput c z) z := by
  rw [chunk, if_pos hp, collapseNewlines_eq_iff.mpr hd, codePoints_eq_iff.mpr hc]

end Zipper

/-! ## The terminal's line as a zipper -/

namespace PgTty

/-- The terminal's line cut at the cursor. -/
def zipper (t : PgTty) : Zipper := ⟨t.input.take t.cursor, t.input.drop t.cursor⟩

/-- The terminal holds the line of `z` with the cursor between its two parts. -/
def Shows (t : PgTty) (z : Zipper) : Prop := t.input = z.left ++ z.right ∧ t.cursor = z.left.length

theorem shows_zipper {t : PgTty} (h : t.Valid) : t.Shows t.zipper :=
  ⟨(List.take_append_drop _ _).symm, by simp [zipper, Nat.min_eq_left h]⟩

theorem Shows.valid {t : PgTty} {z : Zipper} (h : t.Shows z) : t.Valid := by
  obtain ⟨h₁, h₂⟩ := h
  simp [Valid, h₁, h₂]

theorem Shows.take {t : PgTty} {z : Zipper} (h : t.Shows z) : t.input.take t.cursor = z.left := by
  rw [h.1, h.2, List.take_left]

theorem Shows.drop {t : PgTty} {z : Zipper} (h : t.Shows z) : t.input.drop t.cursor = z.right := by
  rw [h.1, h.2, List.drop_left]

/-- Only the line and the cursor matter. -/
theorem Shows.of_line {t t' : PgTty} {z : Zipper} (h : t.Shows z) (hi : t'.input = t.input)
    (hc : t'.cursor = t.cursor) : t'.Shows z :=
  ⟨hi.trans h.1, hc.trans h.2⟩

end PgTty

/-! ## Each editing primitive implements a zipper operation -/

namespace PgShell

/-- `f` does to the terminal's line what `g` does to a zipper, and leaves `_active` alone. -/
def Implements (f : PgShell → PgShell) (g : Zipper → Zipper) : Prop :=
  ∀ s z, s.pgTty.Shows z → (f s).active = s.active ∧ (f s).pgTty.Shows (g z)

theorem implements_handleCursorInsert (d : JsString) :
    Implements (handleCursorInsert d) (Zipper.insert d) := by
  intro s z hs
  refine ⟨rfl, ?_, ?_⟩ <;> simp [handleCursorInsert, withTty, Zipper.insert, hs.1, hs.2]

theorem implements_backspace : Implements (handleCursorErase true) Zipper.backspace := by
  rintro s ⟨l, r⟩ hs
  simp only [handleCursorErase, ↓reduceIte]
  split_ifs with h0
  · have hl : l = [] := List.length_eq_zero.mp (by rw [← hs.2]; omega)
    subst hl
    exact ⟨rfl, hs⟩
  · refine ⟨rfl, ?_, ?_⟩ <;> simp [emit, withTty, Zipper.backspace, hs.1, hs.2, List.dropLast_eq_take]
    omega

theorem implements_delete : Implements (handleCursorErase false) Zipper.delete := by
  intro s z hs
  refine ⟨rfl, ?_, ?_⟩ <;> simp [handleCursorErase, withTty, Zipper.delete, hs.1, hs.2]

theorem handleCursorMove_left (s : PgShell) :
    handleCursorMove (-1) s = s.withTty (s.pgTty.setCursorDirectly (s.pgTty.cursor - 1)) := by
  simp only [handleCursorMove, show ¬((-1 : Int) > 0) by decide, show (-1 : Int) < 0 by decide,
    ↓reduceIte]
  congr 2
  omega

theorem handleCursorMove_right (s : PgShell) :
    handleCursorMove 1 s =
      s.withTty (s.pgTty.setCursorDirectly (min (s.pgTty.cursor + 1) s.pgTty.input.length)) := by
  simp only [handleCursorMove, show ((1 : Int) > 0) by decide, ↓reduceIte]
  congr 2
  omega

theorem implements_moveLeft : Implements (handleCursorMove (-1)) Zipper.moveLeft := by
  intro s z hs
  rw [handleCursorMove_left]
  refine ⟨rfl, ?_⟩
  unfold Zipper.moveLeft
  split
  · rename_i u hu
    have hl := List.dropLast_append_getLast? u hu
    constructor
    · simp only [withTty, PgTty.setCursorDirectly_input]
      rw [hs.1, ← hl]
      simp
    · simp [withTty, hs.2]
  · rename_i hu
    have hl : z.left = [] := List.getLast?_eq_none_iff.mp hu
    exact ⟨hs.1, by simp [withTty, hs.2, hl]⟩

theorem implements_moveRight : Implements (handleCursorMove 1) Zipper.moveRight := by
  intro s z hs
  rw [handleCursorMove_right]
  refine ⟨rfl, ?_⟩
  unfold Zipper.moveRight
  split
  · rename_i u r hr
    exact ⟨by simp [withTty, hs.1, hr], by simp [withTty, hs.1, hs.2, hr]⟩
  · rename_i hr
    exact ⟨hs.1, by simp [withTty, hs.1, hs.2, hr]⟩

theorem implements_home : Implements (fun s => s.withTty (s.pgTty.setCursor 0)) Zipper.home :=
  fun _ _ hs => ⟨rfl, by simp [withTty, PgTty.Shows, Zipper.home, hs.1]⟩

theorem implements_end :
    Implements (fun s => s.withTty (s.pgTty.setCursor s.pgTty.input.length)) Zipper.end_ :=
  fun _ _ hs => ⟨rfl, by simp [withTty, PgTty.Shows, Zipper.end_, hs.1]⟩

/-- CTRL+K. -/
theorem implements_killRight :
    Implements (fun s =>
      let t := s.pgTty.setInput (s.pgTty.input.take s.pgTty.cursor)
      s.withTty (t.setCursor t.input.length)) (fun z => ⟨z.left, []⟩) :=
  fun _ _ hs => ⟨rfl, by simp [withTty, PgTty.Shows, hs.take]⟩

/-- CTRL+U. -/
theorem implements_killLeft :
    Implements (fun s =>
      let t := s.pgTty.setInput (s.pgTty.input.drop s.pgTty.cursor)
      s.withTty (t.setCursor 0)) (fun z => ⟨[], z.right⟩) :=
  fun _ _ hs => ⟨rfl, by simp [withTty, PgTty.Shows, hs.drop]⟩

/-- CTRL+G. -/
theorem implements_clearLine :
    Implements (fun s => { s with history := s.history.getPrevious.1 }.withTty (s.pgTty.setInput []))
      (fun _ => ⟨[], []⟩) :=
  fun _ _ _ => ⟨rfl, by simp [withTty, PgTty.Shows]⟩

/-! ## One key -/

/-- Every escape sequence `_handleData` knows is a key the reference names. -/
theorem escapeKey_named {rest : JsString} {k : EscapeKey} (h : escapeKey rest = some k) :
    ∃ e ∈ Edit.all, 0x1b :: rest ∈ e.keys := by
  obtain ⟨⟨seq, k⟩, hf, rfl⟩ := Option.map_eq_some'.mp h
  have hseq : seq = rest := by simpa using List.find?_some hf
  have named : ∀ e ∈ escapeKeys, ∃ k ∈ Edit.all, (0x1b :: e.1 : JsString) ∈ k.keys := by decide
  exact hseq ▸ named _ (List.mem_of_find?_eq_some hf)

/-- Every control character `_handleData` knows is a key the reference names. -/
theorem controlKey_named {d : JsString} {k : ControlKey} (h : controlKey d = some k) :
    ∃ e ∈ Edit.all, d ∈ e.keys := by
  obtain ⟨⟨seq, k⟩, hf, rfl⟩ := Option.map_eq_some'.mp h
  have hseq : seq = d := by simpa using List.find?_some hf
  have named : ∀ e ∈ controlKeys, ∃ k ∈ Edit.all, e.1 ∈ k.keys := by decide
  exact hseq ▸ named _ (List.mem_of_find?_eq_some hf)

variable {P : Playground} {env : Env}

theorem handleData_printable {s : PgShell} {u : UInt16} {rest : JsString} (ha : s.active = true)
    (hu : 0x20 ≤ u ∧ u ≠ 0x7F) :
    handleData P env (u :: rest) s = .ok (handleCursorInsert (u :: rest) s) := by
  have h₁ : u ≠ 0x1b := by rintro rfl; exact absurd hu.1 (by decide)
  have h₂ : ¬(u < 32 ∨ u = 0x7f) := by rintro (h | h); exacts [UInt16.not_le.mpr h hu.1, hu.2 h]
  simp [handleData, ha, h₁, h₂]

theorem handleData_refines (env : Env) {s : PgShell} {d : JsString} {z z' : Zipper}
    (ha : s.active = true)
    (hs : s.pgTty.Shows z) (h : z.key P.isIncompleteInput d = some z') :
    ∃ s', handleData P env d s = .ok s' ∧ s'.active = s.active ∧ s'.pgTty.Shows z' := by
  unfold Zipper.key at h
  split at h
  · rename_i e he
    have hd : d ∈ e.keys := by simpa using List.find?_some he
    cases e <;> simp only [Edit.keys, List.mem_cons, List.not_mem_nil, or_false] at hd <;>
      simp only [Edit.apply, Option.some.injEq] at h
    · subst h
      rcases hd with rfl | rfl | rfl <;>
        exact ⟨_, by unfold handleData; rw [ha]; rfl, implements_backspace s z hs⟩
    · subst h; subst hd
      exact ⟨_, by unfold handleData; rw [ha]; rfl, implements_delete s z hs⟩
    · subst h
      rcases hd with rfl | rfl <;>
        exact ⟨_, by unfold handleData; rw [ha]; rfl, implements_moveLeft s z hs⟩
    · subst h
      rcases hd with rfl | rfl <;>
        exact ⟨_, by unfold handleData; rw [ha]; rfl, implements_moveRight s z hs⟩
    · subst h
      rcases hd with rfl | rfl <;>
        exact ⟨_, by unfold handleData; rw [ha]; rfl, implements_home s z hs⟩
    · subst h
      rcases hd with rfl | rfl <;>
        exact ⟨_, by unfold handleData; rw [ha]; rfl, implements_end s z hs⟩
    · subst h; subst hd
      exact ⟨_, by unfold handleData; rw [ha]; rfl, implements_killRight s z hs⟩
    · subst h; subst hd
      exact ⟨_, by unfold handleData; rw [ha]; rfl, implements_killLeft s z hs⟩
    · subst h; subst hd
      exact ⟨_, by unfold handleData; rw [ha]; rfl, implements_clearLine s z hs⟩
    · subst hd
      split_ifs at h with hi
      cases h
      rw [← hs.1] at hi
      refine ⟨_, ?_, implements_handleCursorInsert _ s z hs⟩
      unfold handleData; rw [ha]
      show handleControlKey P env .enter s = _
      simp only [handleControlKey, hi, ↓reduceIte]
    · cases h
  · rename_i hnone
    have hnk : ∀ e ∈ Edit.all, d ∉ e.keys := by simpa using List.find?_eq_none.mp hnone
    split at h
    · rename_i u rest
      split_ifs at h with hp <;> cases h
      · exact ⟨_, handleData_printable ha hp, implements_handleCursorInsert _ s z hs⟩
      refine ⟨s, ?_, rfl, hs⟩
      simp only [handleData, ha, Bool.not_true, Bool.false_and, Bool.false_eq_true, ↓reduceIte]
      split_ifs with he hc
      · cases hk : escapeKey rest with
        | none => rfl
        | some k =>
          obtain ⟨e, he', hd⟩ := escapeKey_named hk
          exact absurd (he ▸ hd) (hnk e he')
      · cases hk : controlKey (u :: rest) with
        | none => rfl
        | some k =>
          obtain ⟨e, he', hd⟩ := controlKey_named hk
          exact absurd hd (hnk e he')
      · exact absurd ⟨UInt16.not_lt.mp fun h => hc (.inl h), fun h => hc (.inr h)⟩ hp
    · cases h
      exact ⟨_, by unfold handleData; rw [ha]; rfl, by simpa using implements_handleCursorInsert [] s z hs⟩

/-! ## A chunk -/

theorem foldlM_handleData_refines (env : Env) (l : List JsString) {s : PgShell} {z z' : Zipper}
    (ha : s.active = true) (hs : s.pgTty.Shows z)
    (h : l.foldlM (fun z c => z.key P.isIncompleteInput c) z = some z') :
    ∃ s', l.foldlM (fun s c => handleData P env c s) s = .ok s' ∧ s'.active = s.active ∧
      s'.pgTty.Shows z' := by
  induction l generalizing s z with
  | nil => cases h; exact ⟨s, rfl, rfl, hs⟩
  | cons c l ih =>
    obtain ⟨z₁, h₁, h₂⟩ := Option.bind_eq_some.mp h
    obtain ⟨s₁, hs₁, ha₁, hz₁⟩ := handleData_refines env ha hs h₁
    obtain ⟨s', hs', ha', hz'⟩ := ih (ha₁.trans ha) hz₁ h₂
    refine ⟨s', ?_, ha'.trans ha₁, hz'⟩
    rw [List.foldlM_cons, hs₁]
    exact hs'

theorem isPaste_iff {d : JsString} : isPaste d = true ↔ 3 < d.length ∧ d.head? ≠ some 0x1b := by
  simp [isPaste]

theorem detectPromptPrefix_isSome {s : PgShell} (h : env.bufferLine.isSome) :
    (detectPromptPrefix env s).isSome := by
  unfold detectPromptPrefix
  split
  · obtain ⟨line, hl⟩ := Option.isSome_iff_exists.mp h
    simp [hl]
  · rfl

theorem detectPromptPrefix_line {s s' : PgShell} (h : detectPromptPrefix env s = some s') :
    s'.pgTty.input = s.pgTty.input ∧ s'.pgTty.cursor = s.pgTty.cursor := by
  unfold detectPromptPrefix at h
  split at h
  · split at h
    · cases h
    · cases h; exact ⟨rfl, rfl⟩
  · cases h; exact ⟨rfl, rfl⟩

/-- From every reachable state: an inactive shell leaves the line and the cursor as they are,
    whatever the chunk, and an active one leaves what the reference editor computes, whenever the
    reference describes the chunk and the xterm buffer has the cursor's line. -/
theorem handleTermData_refines {s : PgShell} (hr : Reachable P s) (env : Env) (d : JsString) :
    (s.active = false →
      (finalState (handleTermData P env d s)).pgTty.input = s.pgTty.input ∧
      (finalState (handleTermData P env d s)).pgTty.cursor = s.pgTty.cursor) ∧
    (s.active = true → env.bufferLine.isSome → ∀ z,
      s.pgTty.zipper.chunk P.isIncompleteInput d = some z →
      (finalState (handleTermData P env d s)).pgTty.Shows z) := by
  have hi := hr.inv
  refine ⟨fun ha => ?_, fun ha hb z hz => ?_⟩
  · rcases handleTermData_inactive hi.activeCharPrompt ha d with h | h
    · rw [h]; exact ⟨rfl, rfl⟩
    · exact detectPromptPrefix_line h
  · obtain ⟨s₁, hs₁⟩ := Option.isSome_iff_exists.mp (detectPromptPrefix_isSome (s := s) hb)
    obtain ⟨ha₁, hc₁, -⟩ := detectPromptPrefix_active hs₁
    have hl := detectPromptPrefix_line hs₁
    have hz₁ : s₁.pgTty.Shows s.pgTty.zipper := (PgTty.shows_zipper hi.valid).of_line hl.1 hl.2
    unfold handleTermData
    simp only [ha, Bool.not_true, Bool.false_and, Bool.false_eq_true, ↓reduceIte, hs₁, hc₁,
      hi.activeCharPrompt]
    unfold Zipper.chunk at hz
    split_ifs at hz with hp
    · rw [if_pos (isPaste_iff.mpr hp)]
      obtain ⟨s', h₁, -, h₂⟩ := foldlM_handleData_refines env _ (ha₁.trans ha) hz₁ hz
      rw [h₁]
      exact h₂
    · rw [if_neg (mt isPaste_iff.mp hp)]
      obtain ⟨s', h₁, -, h₂⟩ := handleData_refines env (ha₁.trans ha) hz₁ hz
      rw [h₁]
      exact h₂

theorem handleTermData_refines_sample :
    ((session Playground.sample []).active = false ∧
      (finalState (handleTermData Playground.sample Env.sample ctrlC
        (session Playground.sample []))).pgTty.input = [] ∧
      (finalState (handleTermData Playground.sample Env.sample ctrlC
        (session Playground.sample []))).pgTty.cursor = 0) ∧
    ((session Playground.sample [.enable, .timer]).active = true ∧ Env.sample.bufferLine.isSome ∧
      (session Playground.sample [.enable, .timer]).pgTty.zipper.chunk
        Playground.sample.isIncompleteInput (js "ls -l") = some ⟨js "ls -l", []⟩ ∧
      (finalState (handleTermData Playground.sample Env.sample (js "ls -l")
        (session Playground.sample [.enable, .timer]))).pgTty.Shows ⟨js "ls -l", []⟩) :=
  have h₀ := handleTermData_refines (reachable_session Playground.sample [] {}) Env.sample ctrlC
  have h := handleTermData_refines (reachable_session Playground.sample [.enable, .timer] {})
    Env.sample (js "ls -l")
  ⟨⟨rfl, h₀.1 rfl⟩, rfl, rfl, by decide, h.2 rfl rfl _ (by decide)⟩

end PgShell

end PlaygroundShell