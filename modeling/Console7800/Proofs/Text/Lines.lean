import Console7800.Text.Blank
import Mathlib.Data.List.DropRight

/-!
# Lines and their ends

Cutting a text at its line feeds goes through `++`, and a text that was put together from lines is
cut into them again, whichever of the two ends each of them has (`Ended.lines_eq`).
-/

namespace Console7800.Text

/-! ## Cutting -/

theorem splitLines_ne_nil (text : List Char) : splitLines text ≠ [] := by
  cases text with
  | nil => exact List.cons_ne_nil _ _
  | cons c text =>
    change consLine c (splitLines text) ≠ []
    unfold consLine
    split
    · exact List.cons_ne_nil _ _
    · split <;> exact List.cons_ne_nil _ _

theorem consLine_append (c : Char) {first : List (List Char)} (h : first ≠ [])
    (second : List (List Char)) : consLine c (first ++ second) = consLine c first ++ second := by
  obtain ⟨line, lines, rfl⟩ := List.exists_cons_of_ne_nil h
  unfold consLine
  split <;> rfl

theorem splitLines_append (first second : List Char) :
    splitLines (first ++ '\n' :: second) = splitLines first ++ splitLines second := by
  induction first with
  | nil => rfl
  | cons c first ih =>
    change consLine c (splitLines (first ++ '\n' :: second)) = _
    rw [ih, consLine_append c (splitLines_ne_nil first)]
    rfl

theorem finishLines_append (first : List (List Char)) {second : List (List Char)}
    (h : second ≠ []) :
    finishLines (first ++ second) = first.map dropReturn ++ finishLines second := by
  induction first with
  | nil => rfl
  | cons line first ih =>
    rw [List.cons_append, finishLines, ih]
    · rfl
    · exact List.append_ne_nil_of_right_ne_nil first h

/-- The lines of a text that is empty or ends with a line feed, with more text after it. -/
theorem lines_append {first : List Char} (h : first = [] ∨ first.getLast? = some '\n')
    (second : List Char) : lines (first ++ second) = lines first ++ lines second := by
  rcases h with rfl | hlast
  · rfl
  obtain ⟨before, rfl⟩ := List.getLast?_eq_some_iff.1 hlast
  unfold lines
  rw [List.append_assoc, List.singleton_append, splitLines_append, splitLines_append,
    finishLines_append _ (splitLines_ne_nil second), finishLines_append _ (splitLines_ne_nil [])]
  exact congrArg (· ++ _) (List.append_nil _).symm

theorem head?_dropReturn {c : Char} (h : c ≠ '\r') (line : List Char) :
    (dropReturn (c :: line)).head? = some c := by
  unfold dropReturn
  split
  · rename_i rest hrest
    have hline : c :: line = rest.reverse ++ ['\r'] := by
      rw [← List.reverse_reverse (c :: line), hrest, List.reverse_cons]
    cases hrev : rest.reverse with
    | nil =>
      rw [hrev] at hline
      exact absurd (List.cons.inj hline).1 h
    | cons first others =>
      rw [hrev] at hline
      rw [(List.cons.inj hline).1]
      rfl
  · rfl

theorem head?_lines {text : List Char} {c : Char} (hfeed : c ≠ '\n') (hreturn : c ≠ '\r')
    (h : text.head? = some c) : ∀ line ∈ (lines text).head?, line.head? = some c := by
  obtain ⟨rest, rfl⟩ := List.head?_eq_some_iff.1 h
  obtain ⟨line, others, hsplit⟩ := List.exists_cons_of_ne_nil (splitLines_ne_nil rest)
  have hlines : lines (c :: rest) = finishLines ((c :: line) :: others) := by
    change finishLines (consLine c (splitLines rest)) = _
    rw [hsplit, consLine, if_neg hfeed]
  intro first hmem
  rw [hlines] at hmem
  cases others with
  | nil =>
    obtain rfl := Option.some.inj hmem
    rfl
  | cons =>
    obtain rfl := Option.some.inj hmem
    exact head?_dropReturn hreturn line

/-! ## Lines with their ends -/

/-- The text of these lines, each ended by a line feed, with or without a carriage return before it;
nothing need end the last one. -/
inductive Ended : List (List Char) → List Char → Prop
  | none : Ended [] []
  | last (line : List Char) : Ended [line] line
  | feed (line : List Char) {lines : List (List Char)} {text : List Char} (h : Ended lines text) :
    Ended (line :: lines) (line ++ '\n' :: text)
  | returnFeed (line : List Char) {lines : List (List Char)} {text : List Char}
    (h : Ended lines text) : Ended (line :: lines) (line ++ '\r' :: '\n' :: text)

theorem splitLines_eq_singleton {line : List Char} (h : '\n' ∉ line) :
    splitLines line = [line] := by
  induction line with
  | nil => rfl
  | cons c line ih =>
    obtain ⟨hc, hline⟩ : '\n' ≠ c ∧ '\n' ∉ line := by simpa using h
    change consLine c (splitLines line) = _
    rw [ih hline, consLine, if_neg (Ne.symm hc)]

theorem dropReturn_append (line : List Char) : dropReturn (line ++ ['\r']) = line := by
  unfold dropReturn
  rw [List.reverse_append]
  exact List.reverse_reverse line

theorem dropReturn_eq_self {line : List Char} (h : line.getLast? ≠ some '\r') :
    dropReturn line = line := by
  unfold dropReturn
  split
  · rename_i rest hrest
    refine absurd ?_ h
    rw [← List.head?_reverse, hrest]
    rfl
  · rfl

theorem lines_feed {line : List Char} (h : '\n' ∉ line) (text : List Char) :
    lines (line ++ '\n' :: text) = dropReturn line :: lines text := by
  unfold lines
  rw [splitLines_append, splitLines_eq_singleton h,
    finishLines_append _ (splitLines_ne_nil text)]
  rfl

/-- A line that can be told from its end. -/
structure Whole (line : List Char) : Prop where
  ne_nil : line ≠ []
  noFeed : '\n' ∉ line
  noReturn : line.getLast? ≠ some '\r'

theorem Ended.lines_eq {lines : List (List Char)} {text : List Char} (h : Ended lines text)
    (hwhole : ∀ line ∈ lines, Whole line) : Text.lines text = lines := by
  induction h with
  | none => rfl
  | last line =>
    have hline := hwhole line List.mem_cons_self
    obtain ⟨c, line, rfl⟩ := List.exists_cons_of_ne_nil hline.ne_nil
    unfold Text.lines
    rw [splitLines_eq_singleton hline.noFeed]
    rfl
  | @feed line lines text _ ih =>
    obtain ⟨hline, hlines⟩ := List.forall_mem_cons.1 hwhole
    rw [lines_feed hline.noFeed, dropReturn_eq_self hline.noReturn, ih hlines]
  | @returnFeed line lines text _ ih =>
    obtain ⟨hline, hlines⟩ := List.forall_mem_cons.1 hwhole
    have hfeed : '\n' ∉ line ++ ['\r'] := by simpa using hline.noFeed
    rw [List.append_cons line, lines_feed hfeed, dropReturn_append, ih hlines]

/-! ## Trimming -/

theorem dropEndWhile_cons {drop : Char → Bool} {c : Char} (h : drop c = false) (text : List Char) :
    dropEndWhile drop (c :: text) = c :: dropEndWhile drop text := by
  unfold dropEndWhile
  rw [List.reverse_cons, List.dropWhile_append]
  split
  · rename_i hnone
    simp [List.isEmpty_iff.1 hnone, h]
  · simp

/-- A blank is none of the printing characters of ASCII. -/
theorem isBlank_eq_false {c : Char} (hlow : 0x20 < c.toNat) (hhigh : c.toNat < 0x85) :
    isBlank c = false := by
  rw [Bool.eq_false_iff]
  intro h
  simp only [isBlank, Bool.or_eq_true, Bool.and_eq_true, decide_eq_true_eq] at h
  rcases h with
    (((((((((rfl | ⟨-, h⟩) | rfl) | rfl) | rfl) | ⟨h, -⟩) | rfl) | rfl) | rfl) | rfl) | rfl
  case inl.inl.inl.inl.inl.inl.inl.inl.inl.inr =>
    have hreturn : c.toNat ≤ 0x0D := h
    omega
  case inl.inl.inl.inl.inl.inr =>
    have hquad : 0x2000 ≤ c.toNat := h
    omega
  all_goals exact absurd (And.intro hlow hhigh) (by decide)

theorem dropEndWhile_eq (drop : Char → Bool) (text : List Char) :
    dropEndWhile drop text = text.rdropWhile drop := rfl

theorem trim_eq_self {text : List Char} (h : ∀ c ∈ text, isBlank c = false) :
    trim text = text := by
  have hblank {c : Char} (hc : c ∈ text) : ¬ isBlank c = true := by simp [h c hc]
  rw [trim, dropEndWhile_eq, List.dropWhile_eq_self_iff.2 fun _ => hblank (List.getElem_mem _),
    List.rdropWhile_eq_self_iff.2 fun _ => hblank (List.getLast_mem _)]

theorem isBlank_getLast {text : List Char} (h : trim text = text) (hne : text ≠ []) :
    isBlank (text.getLast hne) = false := by
  have hself : text.rdropWhile isBlank = text :=
    calc text.rdropWhile isBlank
      _ = ((text.dropWhile isBlank).rdropWhile isBlank).rdropWhile isBlank :=
        congrArg (List.rdropWhile isBlank) h.symm
      _ = (text.dropWhile isBlank).rdropWhile isBlank := List.rdropWhile_idempotent ..
      _ = text := h
  exact Bool.eq_false_iff.2 (List.rdropWhile_eq_self_iff.1 hself hne)

end Console7800.Text
