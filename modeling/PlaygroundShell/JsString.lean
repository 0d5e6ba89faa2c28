import Mathlib.Data.List.Sort
import Mathlib.Data.List.Lex
import Mathlib.Data.List.DropRight

/-!
# JavaScript strings

`PgShell` (src/unnamed/part_004) works on JavaScript strings: `length`, `charCodeAt`,
`substring` and `===` all count and compare UTF-16 code units, so a string is modelled as the
list of its code units. The few string functions of the standard library the shell calls are
modelled here as the ECMAScript specification defines them:

* `trim` (`String.prototype.trim`) and the class `\s` share `isWhitespace`;
* `firstToken` is `s.split(" ")?.at(0)`;
* `runPathMatch` is group 1 of `/^\w+\s?(.*)/.exec(cmd)`;
* `collapseNewlines` is `data.replace(/[\r\n]+/g, "\r")`;
* `codePoints` is `Array.from(s)`, which iterates code points, so a surrogate pair stays whole;
* `jsSort` is `Array.prototype.sort()` without a comparator, which orders strings by their code
  units.

`CollapsesTo` and `CodePointsOf` say what the two paste helpers compute, run by run and code point
by code point, apart from how they compute it.

Results: `trim_idem`, `collapseNewlines_eq_iff`, `codePoints_eq_iff`, `codePoints_join`,
`jsSort_eq_of_perm`.
-/

namespace PlaygroundShell

/-- A JavaScript string: its UTF-16 code units. -/
abbrev JsString := List UInt16

/-- A string literal of `part_004` as code units. Every literal the shell uses is ASCII, so each
    character is one code unit. -/
def js (s : String) : JsString := s.toList.map fun c => c.val.toUInt16

/-- `String(n)` for a natural number. -/
def jsNat (n : Nat) : JsString := js (toString n)

/-! ## Character classes -/

/-- ECMAScript `WhiteSpace` and `LineTerminator`: the units `trim` removes and `\s` matches. -/
def isWhitespace (u : UInt16) : Bool :=
  (0x09 ≤ u && u ≤ 0x0D) || u == 0x20 || u == 0xA0 || u == 0x1680 ||
    (0x2000 ≤ u && u ≤ 0x200A) || u == 0x2028 || u == 0x2029 || u == 0x202F ||
    u == 0x205F || u == 0x3000 || u == 0xFEFF

/-- ECMAScript `LineTerminator`: the units `.` does not match. -/
def isLineTerminator (u : UInt16) : Bool :=
  u == 0x0A || u == 0x0D || u == 0x2028 || u == 0x2029

/-- The regular-expression class `\w`: `[A-Za-z0-9_]`. -/
def isWordChar (u : UInt16) : Bool :=
  (0x30 ≤ u && u ≤ 0x39) || (0x41 ≤ u && u ≤ 0x5A) || u == 0x5F || (0x61 ≤ u && u ≤ 0x7A)

/-! ## `trim`, `split` and `startsWith` -/

/-- `String.prototype.trim`. -/
def trim (s : JsString) : JsString :=
  ((s.dropWhile isWhitespace).reverse.dropWhile isWhitespace).reverse

/-- `s.split(" ")?.at(0)`: the text before the first space (`U+0020` only). `split` always
    returns at least one piece, so the optional chain never yields `undefined`. -/
def firstToken (s : JsString) : JsString := s.takeWhile (· != 0x20)

/-- `s.startsWith(p)`. -/
def startsWith (s p : JsString) : Bool := p.isPrefixOf s

/-! ## `/^\w+\s?(.*)/` -/

/-- Group 1 of `/^\w+\s?(.*)/.exec(cmd)`, `none` for `null`. The first attempt of the
    backtracking matcher succeeds whenever `\w+` matches: `\w+` takes the longest run of word
    characters, `\s?` one whitespace unit if one follows, and `(.*)` the rest up to the first
    line terminator. -/
def runPathMatch (cmd : JsString) : Option JsString :=
  let word := cmd.takeWhile isWordChar
  if word = [] then none
  else
    let rest := cmd.drop word.length
    let rest := match rest with
      | u :: r => if isWhitespace u then r else rest
      | [] => []
    some (rest.takeWhile fun u => !isLineTerminator u)

/-! ## Paste expansion -/

/-- A carriage return or a line feed: the class `[\r\n]`. -/
def isCrLf (u : UInt16) : Bool := u == 0x0D || u == 0x0A

/-- `replace(/[\r\n]+/g, "\r")` after a unit that was (`inRun`) or was not part of a run of
    `[\r\n]`. -/
def collapseNewlinesFrom : Bool → JsString → JsString
  | _, [] => []
  | inRun, u :: rest =>
    if isCrLf u then
      if inRun then collapseNewlinesFrom true rest else 0x0D :: collapseNewlinesFrom true rest
    else u :: collapseNewlinesFrom false rest

/-- `data.replace(/[\r\n]+/g, "\r")`: every maximal run of CR and LF becomes one CR. -/
def collapseNewlines (data : JsString) : JsString := collapseNewlinesFrom false data

/-- A leading surrogate, `0xD800 ≤ u ≤ 0xDBFF`. -/
def isHighSurrogate (u : UInt16) : Bool := 0xD800 ≤ u && u ≤ 0xDBFF

/-- A trailing surrogate, `0xDC00 ≤ u ≤ 0xDFFF`. -/
def isLowSurrogate (u : UInt16) : Bool := 0xDC00 ≤ u && u ≤ 0xDFFF

/-- `Array.from(s)` after a leading surrogate `pending` that still waits for its partner: the
    string iterator yields a surrogate pair as one string of two units and every other unit, a
    lone surrogate included, as a string of its own. -/
def codePointsFrom : Option UInt16 → JsString → List JsString
  | none, [] => []
  | some h, [] => [[h]]
  | none, u :: rest =>
    if isHighSurrogate u then codePointsFrom (some u) rest else [u] :: codePointsFrom none rest
  | some h, u :: rest =>
    if isLowSurrogate u then [h, u] :: codePointsFrom none rest
    else if isHighSurrogate u then [h] :: codePointsFrom (some u) rest
    else [h] :: [u] :: codePointsFrom none rest

/-- `Array.from(s)`: the code points of `s`, each as a string. -/
def codePoints (s : JsString) : List JsString := codePointsFrom none s

/-! ## `Array.prototype.sort` -/

/-- The default order of `sort()` on strings: code unit by code unit, a proper prefix first. -/
def jsLe (a b : JsString) : Prop := a.map UInt16.toNat ≤ b.map UInt16.toNat

instance : DecidableRel jsLe := fun _ _ => inferInstanceAs (Decidable (_ ≤ _))

/-- `candidates.sort()`. The result of a sort by a total order does not depend on the
    algorithm, so insertion sort stands for the engine's. -/
def jsSort (l : List JsString) : List JsString := l.insertionSort jsLe

/-! ## Lemmas -/

theorem dropWhile_left_of_append {p : UInt16 → Bool} {a b : JsString}
    (h : (a ++ b).dropWhile p = a ++ b) : a.dropWhile p = a := by
  cases a with
  | nil => rfl
  | cons x a =>
    have hx := List.dropWhile_eq_self_iff.mp h (by simp)
    exact List.dropWhile_cons_of_neg (by simpa using hx)

theorem trim_idem (s : JsString) : trim (trim s) = trim s := by
  unfold trim
  set t := s.dropWhile isWhitespace
  have hsplit : t = (t.reverse.dropWhile isWhitespace).reverse ++
      (t.reverse.takeWhile isWhitespace).reverse := by
    rw [← List.reverse_append, List.takeWhile_append_dropWhile, List.reverse_reverse]
  have ht : t.dropWhile isWhitespace = t := List.dropWhile_idempotent _ s
  rw [hsplit] at ht
  rw [dropWhile_left_of_append ht, List.reverse_reverse, List.dropWhile_idempotent]

theorem codePointsFrom_join (pending : Option UInt16) (s : JsString) :
    (codePointsFrom pending s).flatten = pending.toList ++ s := by
  induction s generalizing pending with
  | nil => cases pending <;> rfl
  | cons u rest ih =>
    cases pending <;> simp only [codePointsFrom] <;> split_ifs <;> simp [ih]

theorem codePoints_join (s : JsString) : (codePoints s).flatten = s :=
  codePointsFrom_join none s

/-! ## What the paste helpers compute -/

/-- `d'` is `d` with every maximal run of CR and LF replaced by one CR: the run is followed by
    the end of `d` or by a unit that is neither. -/
inductive CollapsesTo : JsString → JsString → Prop
  | nil : CollapsesTo [] []
  | keep {u : UInt16} {d d' : JsString} : isCrLf u = false → CollapsesTo d d' →
      CollapsesTo (u :: d) (u :: d')
  | run {r d d' : JsString} : r ≠ [] → (∀ u ∈ r, isCrLf u = true) →
      (∀ u ∈ d.head?, isCrLf u = false) → CollapsesTo d d' →
      CollapsesTo (r ++ d) (0x0D :: d')

/-- Inside a run, the rest of the run adds nothing. -/
theorem collapseNewlinesFrom_run {r : JsString} (hr : ∀ u ∈ r, isCrLf u = true) (d : JsString) :
    collapseNewlinesFrom true (r ++ d) = collapseNewlinesFrom true d := by
  induction r with
  | nil => rfl
  | cons u r ih =>
    simp only [List.cons_append, collapseNewlinesFrom, hr u (List.mem_cons_self _ _), ↓reduceIte]
    exact ih fun v hv => hr v (List.mem_cons_of_mem _ hv)

/-- A run ends where a unit that is not CR or LF, or the end of the string, comes. -/
theorem collapseNewlinesFrom_end {d : JsString} (hd : ∀ u ∈ d.head?, isCrLf u = false) :
    collapseNewlinesFrom true d = collapseNewlinesFrom false d := by
  cases d with
  | nil => rfl
  | cons u d => simp [collapseNewlinesFrom, hd u rfl]

theorem collapsesTo_collapseNewlines {d d' : JsString} (h : CollapsesTo d d') :
    collapseNewlines d = d' := by
  induction h with
  | nil => rfl
  | keep hu _ ih => simp [collapseNewlines, collapseNewlinesFrom, hu, ← ih]
  | @run r d d' hne hr hd _ ih =>
    obtain ⟨u, r, rfl⟩ := List.exists_cons_of_ne_nil hne
    have hr' : ∀ v ∈ r, isCrLf v = true := fun v hv => hr v (List.mem_cons_of_mem _ hv)
    rw [collapseNewlines, List.cons_append, collapseNewlinesFrom,
      if_pos (hr u (List.mem_cons_self _ _)), if_neg Bool.false_ne_true,
      collapseNewlinesFrom_run hr', collapseNewlinesFrom_end hd, ← ih]
    rfl

/-- `collapseNewlines` relates every string to its collapse; a run in progress, `r`, is closed by
    the first unit after it that is not CR or LF. -/
theorem collapsesTo_collapseNewlinesFrom (d : JsString) :
    CollapsesTo d (collapseNewlinesFrom false d) ∧
      ∀ r : JsString, r ≠ [] → (∀ u ∈ r, isCrLf u = true) →
        CollapsesTo (r ++ d) (0x0D :: collapseNewlinesFrom true d) := by
  induction d with
  | nil => exact ⟨.nil, fun r hne hr => .run hne hr (by simp) .nil⟩
  | cons u d ih =>
    cases hu : isCrLf u
    · have hk : CollapsesTo (u :: d) (u :: collapseNewlinesFrom false d) := .keep hu ih.1
      simp only [collapseNewlinesFrom, hu, Bool.false_eq_true, ↓reduceIte]
      exact ⟨hk, fun r hne hr => .run hne hr (by simp [hu]) hk⟩
    · simp only [collapseNewlinesFrom, hu, ↓reduceIte]
      refine ⟨by simpa using ih.2 [u] (by simp) (by simp [hu]), fun r hne hr => ?_⟩
      have h := ih.2 (r ++ [u]) (by simp) (List.forall_mem_append.mpr ⟨hr, by simp [hu]⟩)
      rwa [List.append_assoc, List.singleton_append] at h

/-- `data.replace(/[\r\n]+/g, "\r")` is the collapse of every maximal run of CR and LF. -/
theorem collapseNewlines_eq_iff {d d' : JsString} : collapseNewlines d = d' ↔ CollapsesTo d d' :=
  ⟨fun h => h ▸ (collapsesTo_collapseNewlinesFrom d).1, collapsesTo_collapseNewlines⟩

/-- `cs` are the code points of `s`, each as a string: a leading surrogate followed by a trailing
    one is one code point, and every other unit, a lone surrogate included, is one of its own. -/
inductive CodePointsOf : JsString → List JsString → Prop
  | nil : CodePointsOf [] []
  | pair {h l : UInt16} {s : JsString} {cs : List JsString} : isHighSurrogate h = true →
      isLowSurrogate l = true → CodePointsOf s cs → CodePointsOf (h :: l :: s) ([h, l] :: cs)
  | single {u : UInt16} {s : JsString} {cs : List JsString} :
      (isHighSurrogate u = true → ∀ l ∈ s.head?, isLowSurrogate l = false) →
      CodePointsOf s cs → CodePointsOf (u :: s) ([u] :: cs)

/-- A leading surrogate that is not followed by a trailing one is a code point of its own. -/
theorem codePointsFrom_some_of_not_low (h : UInt16) {s : JsString}
    (hs : ∀ l ∈ s.head?, isLowSurrogate l = false) :
    codePointsFrom (some h) s = [h] :: codePointsFrom none s := by
  cases s with
  | nil => rfl
  | cons l s =>
    simp only [codePointsFrom, hs l rfl, Bool.false_eq_true, ↓reduceIte]
    split <;> rfl

theorem codePointsOf_codePoints {s : JsString} {cs : List JsString} (h : CodePointsOf s cs) :
    codePoints s = cs := by
  induction h with
  | nil => rfl
  | pair hh hl _ ih => simp [codePoints, codePointsFrom, hh, hl, ← ih]
  | @single u s cs hu _ ih =>
    rw [← ih]
    cases hh : isHighSurrogate u
    · simp [codePoints, codePointsFrom, hh]
    · simp only [codePoints, codePointsFrom, hh, ↓reduceIte]
      exact codePointsFrom_some_of_not_low u (hu hh)

/-- `Array.from` relates every string to its code points; a leading surrogate `h` waiting for its
    partner joins the first unit of the rest if that unit is a trailing surrogate. -/
theorem codePointsOf_codePointsFrom (s : JsString) :
    CodePointsOf s (codePointsFrom none s) ∧
      ∀ h, isHighSurrogate h = true → CodePointsOf (h :: s) (codePointsFrom (some h) s) := by
  induction s with
  | nil => exact ⟨.nil, fun h _ => .single (by simp) .nil⟩
  | cons v s ih =>
    have h₁ : CodePointsOf (v :: s) (codePointsFrom none (v :: s)) := by
      cases hv : isHighSurrogate v
      · simpa [codePointsFrom, hv] using CodePointsOf.single (by simp [hv]) ih.1
      · simpa [codePointsFrom, hv] using ih.2 v hv
    refine ⟨h₁, fun h hh => ?_⟩
    cases hl : isLowSurrogate v
    · rw [codePointsFrom_some_of_not_low h (by simpa using hl)]
      exact .single (fun _ => by simpa using hl) h₁
    · simpa [codePointsFrom, hl] using CodePointsOf.pair hh hl ih.1

/-- `Array.from(s)` splits `s` into its code points. -/
theorem codePoints_eq_iff {s : JsString} {cs : List JsString} :
    codePoints s = cs ↔ CodePointsOf s cs :=
  ⟨fun h => h ▸ (codePointsOf_codePointsFrom s).1, codePointsOf_codePoints⟩

instance : IsTotal JsString jsLe := ⟨fun _ _ => le_total _ _⟩
instance : IsTrans JsString jsLe := ⟨fun _ _ _ => le_trans⟩
instance : IsAntisymm JsString jsLe :=
  ⟨fun _ _ h₁ h₂ => List.map_injective_iff.mpr (fun _ _ => UInt16.toNat.inj) (le_antisymm h₁ h₂)⟩

/-- Sorting forgets the order of the candidates: permuted lists sort to the same list. -/
theorem jsSort_eq_of_perm {l₁ l₂ : List JsString} (h : l₁.Perm l₂) : jsSort l₁ = jsSort l₂ :=
  List.eq_of_perm_of_sorted
    (((List.perm_insertionSort jsLe l₁).trans h).trans (List.perm_insertionSort jsLe l₂).symm)
    (List.sorted_insertionSort _ _) (List.sorted_insertionSort _ _)

end PlaygroundShell
