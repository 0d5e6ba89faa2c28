import PlaygroundShell.Editor

/-!
# History navigation from the keyboard

UP and CTRL+P show what `getPrevious()` returns when it is a non-empty line
(src/unnamed/part_004:323-331, 504-512); DOWN and CTRL+N show what `getNext()` returns, or an
empty line when it returns nothing (part_004:333-340, 495-502). In every reachable state the ring
holds only non-empty lines (`reachable_history_trimmed`), so every line the ring returns is
shown: walking the ring from the keyboard is the ring's own walk.

Results:
* `history_keys_walk`: from the bottom of a reachable history, UP pressed `m` times shows the
  `m`-th newest line with the cursor at its end, and stops at the oldest; DOWN then brings back
  the newer lines one by one and finally an empty line.
-/

namespace PlaygroundShell

namespace PgShell

variable {P : Playground} {env : Env}

theorem handleData_up {s : PgShell} (ha : s.active = true) :
    handleData P env (js "\x1b[A") s = .ok (historyPrevious s) := by
  unfold handleData
  rw [ha]
  rfl

theorem handleData_down {s : PgShell} (ha : s.active = true) :
    handleData P env (js "\x1b[B") s = .ok (historyNext s) := by
  unfold handleData
  rw [ha]
  rfl

theorem active_historyPrevious (s : PgShell) : (historyPrevious s).active = s.active := by
  unfold historyPrevious showEntry
  dsimp only
  split
  · split_ifs <;> rfl
  · rfl

/-- `k` presses of a key that acts as `f` on an active shell, and keeps it active. -/
theorem foldlM_replicate {key : JsString} {f : PgShell → PgShell}
    (hf : ∀ s, s.active = true → handleData P env key s = .ok (f s))
    (hfa : ∀ s, (f s).active = s.active) (k : Nat) {s : PgShell} (ha : s.active = true) :
    (List.replicate k key).foldlM (fun s c => handleData P env c s) s = .ok (f^[k] s) := by
  induction k generalizing s with
  | zero => rfl
  | succ k ih =>
    rw [List.replicate_succ, List.foldlM_cons, hf s ha]
    exact ih ((hfa s).trans ha)

/-! ## UP -/

theorem history_showEntry (value : Option JsString) (s : PgShell) :
    (showEntry value s).history = s.history := by
  unfold showEntry
  split
  · split_ifs <;> rfl
  · rfl

theorem showEntry_shows {v : JsString} (hv : v ≠ []) (s : PgShell) :
    (showEntry (some v) s).pgTty.Shows ⟨v, []⟩ := by
  simp [showEntry, hv, withTty, PgTty.Shows]

/-- UP pressed `k + 1` times from the bottom of a well-formed ring of `n + 1` lines shows the line
    `n - min k n`, the oldest once `k ≥ n`, with the ring's cursor on it. -/
theorem historyPrevious_iterate {s : PgShell} (hw : s.history.WellFormed)
    (hc : s.history.cursor = none) {n : Nat} (hn : s.history.entries.length = n + 1) (k : Nat) :
    (historyPrevious^[k + 1] s).history = { s.history with cursor := some (n - min k n) } ∧
    (historyPrevious^[k + 1] s).pgTty.Shows ⟨s.history.entries.getD (n - min k n) [], []⟩ := by
  induction k with
  | zero =>
    obtain ⟨l, e, he⟩ : ∃ l e, s.history.entries = l ++ [e] := by
      rcases List.eq_nil_or_concat s.history.entries with h | ⟨l, e, h⟩
      · simp [h] at hn
      · exact ⟨l, e, by rw [h, List.concat_eq_append]⟩
    have hl : l.length = n := by simpa [he] using hn
    have hne : e ≠ [] := (hw.lines e (by simp [he])).1
    have hs : historyPrevious s =
        showEntry (some e) { s with history := { s.history with cursor := some l.length } } := by
      unfold historyPrevious
      rw [PgShellHistory.getPrevious_bottom hc he]
    have hv : s.history.entries.getD n [] = e := by simp [he, ← hl]
    rw [Nat.zero_add, Function.iterate_one, hs, history_showEntry, Nat.zero_min, Nat.sub_zero, hv,
      hl]
    exact ⟨rfl, showEntry_shows hne _⟩
  | succ k ih =>
    obtain ⟨h₁, h₂⟩ := ih
    rw [Function.iterate_succ_apply']
    generalize historyPrevious^[k + 1] s = t at h₁ h₂
    have he : t.history.entries = s.history.entries := by rw [h₁]
    by_cases hk : n - min k n = 0
    · have hs : historyPrevious t = t := by
        unfold historyPrevious
        rw [PgShellHistory.getPrevious_zero (by rw [h₁, hk])]
        rfl
      rw [hs, show n - min (k + 1) n = 0 by omega, ← hk]
      exact ⟨h₁, h₂⟩
    · obtain ⟨i, hi⟩ : ∃ i, n - min k n = i + 1 := ⟨n - min k n - 1, by omega⟩
      have hlt : i < t.history.entries.length := by rw [he]; omega
      have hs : historyPrevious t = showEntry (some (t.history.entries.get ⟨i, hlt⟩))
          { t with history := { t.history with cursor := some i } } := by
        unfold historyPrevious
        rw [PgShellHistory.getPrevious_succ (by rw [h₁, hi]) hlt]
        rfl
      have hne : t.history.entries.get ⟨i, hlt⟩ ≠ [] :=
        (hw.lines _ (he ▸ List.get_mem _ _ _)).1
      have hv : s.history.entries.getD i [] = t.history.entries.get ⟨i, hlt⟩ := by
        simp [List.getD_eq_getElem?_getD, he, List.getElem?_eq_getElem (he ▸ hlt)]
      rw [hs, history_showEntry, show n - min (k + 1) n = i by omega, hv]
      exact ⟨by rw [h₁], showEntry_shows hne _⟩

/-! ## DOWN -/

/-- DOWN on the line `i` of a ring of `n + 1` lines shows the line `i + 1` if there is one, and
    otherwise an empty line with the ring back at its bottom. -/
theorem historyNext_step {t : PgShell} {n i : Nat} (hn : t.history.entries.length = n + 1)
    (hc : t.history.cursor = some i) :
    (historyNext t).history = { t.history with cursor := if i < n then some (i + 1) else none } ∧
    (historyNext t).pgTty.Shows
      ⟨if i < n then t.history.entries.getD (i + 1) [] else [], []⟩ := by
  by_cases h : i < n
  · have hlt : i + 1 < t.history.entries.length := by omega
    simp [historyNext, PgShellHistory.getNext_succ hc hlt, h, withTty, PgTty.Shows,
      List.getD_eq_getElem?_getD, List.getElem?_eq_getElem hlt]
  · simp [historyNext, PgShellHistory.getNext_last hc (by omega), h, withTty, PgTty.Shows]

/-- DOWN pressed `j + 1` times from the line `i` of a ring of `n + 1` lines shows the line
    `i + j + 1` while there is one, and then an empty line with the ring back at its bottom. -/
theorem historyNext_iterate {s : PgShell} {n i : Nat} (hn : s.history.entries.length = n + 1)
    (hc : s.history.cursor = some i) (j : Nat) (hj : i + j ≤ n) :
    (historyNext^[j + 1] s).history =
      { s.history with cursor := if i + j < n then some (i + j + 1) else none } ∧
    (historyNext^[j + 1] s).pgTty.Shows
      ⟨if i + j < n then s.history.entries.getD (i + j + 1) [] else [], []⟩ := by
  induction j with
  | zero => exact historyNext_step hn hc
  | succ j ih =>
    obtain ⟨h₁, -⟩ := ih (by omega)
    rw [Function.iterate_succ_apply']
    generalize historyNext^[j + 1] s = t at h₁
    rw [if_pos (by omega)] at h₁
    have he : t.history.entries = s.history.entries := by rw [h₁]
    obtain ⟨h₂, h₃⟩ := historyNext_step (he ▸ hn) (by rw [h₁])
    rw [h₂, h₁, he] at *
    exact ⟨rfl, by simpa [Nat.add_assoc] using h₃⟩

/-! ## The walk -/

theorem active_historyPrevious_iterate {s : PgShell} (ha : s.active = true) (k : Nat) :
    (historyPrevious^[k] s).active = true := by
  induction k with
  | zero => exact ha
  | succ k ih => rw [Function.iterate_succ_apply', active_historyPrevious, ih]

/-- The spec's property 3 from the keyboard. From the bottom of a reachable history, UP pressed
    `m` times, `m` at most the number of lines, shows the `m`-th newest line with the cursor at
    its end; DOWN pressed `j ≤ m` times after that shows the line `j` newer, and an empty line
    once `j = m`. UP pressed at least as often as there are lines shows the oldest. -/
theorem history_keys_walk {s : PgShell} (hr : Reachable P s) (env : Env) (ha : s.active = true)
    (hc : s.history.cursor = none) {m j : Nat} (hm : 0 < m) (hml : m ≤ s.history.entries.length)
    (hj : j ≤ m) :
    (finalState ((List.replicate m (js "\x1b[A") ++ List.replicate j (js "\x1b[B")).foldlM
        (fun s c => handleData P env c s) s)).pgTty.Shows
      ⟨if j < m then s.history.entries.getD (s.history.entries.length - m + j) [] else [], []⟩ ∧
    ∀ m', s.history.entries.length ≤ m' → 0 < m' →
      (finalState ((List.replicate m' (js "\x1b[A")).foldlM
        (fun s c => handleData P env c s) s)).pgTty.Shows ⟨s.history.entries.getD 0 [], []⟩ := by
  have hw := hr.inv.history
  obtain ⟨n, hn⟩ : ∃ n, s.history.entries.length = n + 1 :=
    ⟨s.history.entries.length - 1, by omega⟩
  have hup : ∀ k, (List.replicate k (js "\x1b[A")).foldlM (fun s c => handleData P env c s) s =
      .ok (historyPrevious^[k] s) :=
    fun k => foldlM_replicate (fun _ h => handleData_up h) active_historyPrevious k ha
  refine ⟨?_, fun m' hm' hm'0 => ?_⟩
  · obtain ⟨k, rfl⟩ : ∃ k, m = k + 1 := ⟨m - 1, by omega⟩
    obtain ⟨h₁, h₂⟩ := historyPrevious_iterate hw hc hn k
    rw [show min k n = k by omega] at h₁ h₂
    have hdown : (List.replicate j (js "\x1b[B")).foldlM (fun s c => handleData P env c s)
        (historyPrevious^[k + 1] s) = .ok (historyNext^[j] (historyPrevious^[k + 1] s)) :=
      foldlM_replicate (fun _ h => handleData_down h) (fun _ => rfl) j
        (active_historyPrevious_iterate ha (k + 1))
    rw [List.foldlM_append, hup]
    show (finalState ((List.replicate j _).foldlM _ (historyPrevious^[k + 1] s))).pgTty.Shows _
    rw [hdown, hn]
    generalize historyPrevious^[k + 1] s = t at h₁ h₂
    cases j with
    | zero => simpa [show n + 1 - (k + 1) = n - k by omega] using h₂
    | succ j =>
      have ht : t.history.entries.length = n + 1 := by rw [h₁, hn]
      obtain ⟨-, h₃⟩ := historyNext_iterate ht (by rw [h₁]) j (by omega)
      have he : t.history.entries = s.history.entries := by rw [h₁]
      by_cases hjk : j < k
      · rw [if_pos (by omega), show n + 1 - (k + 1) + (j + 1) = n - k + j + 1 by omega]
        simpa [if_pos (show n - k + j < n by omega), he] using h₃
      · rw [if_neg (by omega)]
        simpa [if_neg (show ¬n - k + j < n by omega)] using h₃
  · obtain ⟨k, rfl⟩ : ∃ k, m' = k + 1 := ⟨m' - 1, by omega⟩
    rw [hup]
    simpa [show min k n = n by omega] using (historyPrevious_iterate hw hc hn k).2

theorem history_keys_walk_sample :
    (session Playground.sample [.enable, .timer, .termData (js "ls"), .termData (js "\r"), .timer,
      .termData (js "cd"), .termData (js "\r"), .timer]).active = true ∧
    (session Playground.sample [.enable, .timer, .termData (js "ls"), .termData (js "\r"), .timer,
      .termData (js "cd"), .termData (js "\r"), .timer]).history.cursor = none ∧
    (session Playground.sample [.enable, .timer, .termData (js "ls"), .termData (js "\r"), .timer,
      .termData (js "cd"), .termData (js "\r"), .timer]).history.entries = [js "ls", js "cd"] ∧
    (finalState ((List.replicate 2 (js "\x1b[A") ++ List.replicate 1 (js "\x1b[B")).foldlM
        (fun s c => handleData Playground.sample Env.sample c s)
        (session Playground.sample [.enable, .timer, .termData (js "ls"), .termData (js "\r"),
          .timer, .termData (js "cd"), .termData (js "\r"), .timer]))).pgTty.Shows
      ⟨if 1 < 2 then (session Playground.sample [.enable, .timer, .termData (js "ls"),
          .termData (js "\r"), .timer, .termData (js "cd"), .termData (js "\r"),
          .timer]).history.entries.getD ((session Playground.sample [.enable, .timer,
          .termData (js "ls"), .termData (js "\r"), .timer, .termData (js "cd"),
          .termData (js "\r"), .timer]).history.entries.length - 2 + 1) [] else [], []⟩ :=
  ⟨by decide, by decide, by decide, (history_keys_walk (reachable_session _ _ _) Env.sample
    (by decide) (by decide) (by decide) (by decide) (by decide)).1⟩

end PgShell

end PlaygroundShell
