import ContractProxy.Proxy.Unit
import ContractProxy.Text.Lines
import Mathlib.Data.List.Basic

/-!
Which lines a text has. A text is taken apart into lines in one way only, lines that were ended one
by one are found again one by one, and neither another line ending throughout nor an ending less at
the end makes other lines.
-/

set_option autoImplicit false

namespace ContractProxy.Text

/-- The lines of a text, each with its ending. The last one needs none unless it is empty, and a
carriage return that no line feed follows belongs to the line. -/
inductive Lines : Text → List Text → Prop where
  | nil : Lines [] []
  | last {line : Text} : line ≠ [] → '\n' ∉ line → Lines line [line]
  | feed {line rest : Text} {others : List Text} : '\n' ∉ line → line.getLast? ≠ some '\r' →
      Lines rest others → Lines (line ++ '\n' :: rest) (line :: others)
  | returned {line rest : Text} {others : List Text} : '\n' ∉ line →
      Lines rest others → Lines (line ++ '\r' :: '\n' :: rest) (line :: others)

theorem endedLine_of_head? {current : Text} (h : current.head? ≠ some '\r') :
    endedLine current = current.reverse := by
  unfold endedLine
  split
  · exact absurd rfl h
  · rfl

theorem endedLine_of_not_mem {current : Text} (h : '\r' ∉ current) :
    endedLine current = current.reverse :=
  endedLine_of_head? fun hhead => h (List.mem_of_mem_head? hhead)

theorem endedLine_reverse_of_getLast? {line : Text} (h : line.getLast? ≠ some '\r') :
    endedLine line.reverse = line := by
  rw [endedLine_of_head? (by rwa [List.head?_reverse]), List.reverse_reverse]

theorem endedLine_reverse {line : Text} (h : '\r' ∉ line) : endedLine line.reverse = line :=
  endedLine_reverse_of_getLast? fun hlast => h (List.mem_of_getLast? hlast)

theorem endedLine_reverse_concat (line : Text) : endedLine (line ++ ['\r']).reverse = line := by
  rw [List.reverse_append]
  exact line.reverse_reverse

theorem linesFrom_feed (done : List Text) (current rest : Text) :
    linesFrom done current ('\n' :: rest) = linesFrom (endedLine current :: done) [] rest := by
  cases current <;> rfl

theorem linesFrom_cons {c : Char} (h : c ≠ '\n') (done : List Text) (current rest : Text) :
    linesFrom done current (c :: rest) = linesFrom done (c :: current) rest := by
  simp [linesFrom]

theorem linesFrom_nil {current : Text} (h : current ≠ []) (done : List Text) :
    linesFrom done current [] = (current.reverse :: done).reverse := by
  cases current with
  | nil => exact absurd rfl h
  | cons => rfl

theorem linesFrom_append {line : Text} (h : '\n' ∉ line) (done : List Text) (current rest : Text) :
    linesFrom done current (line ++ rest) = linesFrom done (line.reverse ++ current) rest := by
  induction line generalizing current with
  | nil => rfl
  | cons c line ih =>
    obtain ⟨hc, hline⟩ := List.ne_and_not_mem_of_not_mem_cons h
    rw [List.cons_append, linesFrom_cons hc.symm, ih hline, List.reverse_cons, List.append_assoc,
      List.singleton_append]

theorem linesFrom_line (done : List Text) (current : Text) {line : Text} (h : '\n' ∉ line)
    (rest : Text) :
    linesFrom done current (line ++ '\n' :: rest) =
      linesFrom (endedLine (line.reverse ++ current) :: done) [] rest := by
  rw [linesFrom_append h, linesFrom_feed]

theorem linesFrom_eq_append (done : List Text) (current t : Text) :
    linesFrom done current t = done.reverse ++ linesFrom [] current t := by
  induction t generalizing done current with
  | nil => cases current <;> simp [linesFrom]
  | cons c rest ih =>
    by_cases hc : c = '\n'
    · subst hc
      rw [linesFrom_feed, linesFrom_feed, ih (endedLine current :: done), ih [endedLine current]]
      simp
    · rw [linesFrom_cons hc, linesFrom_cons hc, ih]

theorem lines_line {line : Text} (h : '\n' ∉ line) (rest : Text) :
    lines (line ++ '\n' :: rest) = endedLine line.reverse :: lines rest := by
  rw [lines, linesFrom_line [] [] h, List.append_nil, linesFrom_eq_append]
  rfl

theorem lines_eq_of_lines {t : Text} {all : List Text} (h : Lines t all) : lines t = all := by
  induction h with
  | nil => rfl
  | last hne hline =>
    have hheld := linesFrom_append hline [] [] []
    rw [List.append_nil, List.append_nil] at hheld
    rw [lines, hheld, linesFrom_nil (by simpa using hne), List.reverse_reverse]
    rfl
  | feed hline hlast _ ih => rw [lines_line hline, ih, endedLine_reverse_of_getLast? hlast]
  | @returned line rest others hline _ ih =>
    have hreturn : '\n' ∉ line ++ ['\r'] := by simpa using hline
    have hlines := lines_line hreturn rest
    rw [List.append_assoc, List.singleton_append, endedLine_reverse_concat, ih] at hlines
    exact hlines

theorem lines_spec (t : Text) : Lines t (lines t) := by
  induction hlength : t.length using Nat.strongRecOn generalizing t with
  | ind n ih =>
    by_cases hfeed : '\n' ∈ t
    · obtain ⟨line, rest, rfl, hline⟩ := List.eq_append_cons_of_mem hfeed
      have hrest : Lines rest (lines rest) :=
        ih rest.length (by rw [← hlength]; simp; omega) rest rfl
      rw [lines_line hline]
      by_cases hlast : line.getLast? = some '\r'
      · obtain ⟨front, rfl⟩ := List.getLast?_eq_some_iff.mp hlast
        have hfront : '\n' ∉ front := fun hm => hline (List.mem_append_left _ hm)
        rw [endedLine_reverse_concat, List.append_assoc, List.singleton_append]
        exact .returned hfront hrest
      · rw [endedLine_reverse_of_getLast? hlast]
        exact .feed hline hlast hrest
    · by_cases hempty : t = []
      · subst hempty
        exact .nil
      · have hlast := Lines.last hempty hfeed
        rwa [lines_eq_of_lines hlast]

theorem lines_endLines_append {all : List Text} (h : ∀ line ∈ all, '\n' ∉ line ∧ '\r' ∉ line)
    (rest : Text) : lines (endLines all ++ rest) = all ++ lines rest := by
  induction all with
  | nil => rfl
  | cons line others ih =>
    obtain ⟨⟨hfeed, hreturn⟩, hothers⟩ := List.forall_mem_cons.mp h
    calc lines (endLines (line :: others) ++ rest)
        = lines (line ++ '\n' :: (endLines others ++ rest)) := by simp [endLines]
      _ = line :: lines (endLines others ++ rest) := by
          rw [lines_line hfeed, endedLine_reverse hreturn]
      _ = line :: others ++ lines rest := by rw [ih hothers, List.cons_append]

theorem cutFrom_ne_nil (mark : Text) (skip : Nat) (piece t : Text) :
    cutFrom mark skip piece t ≠ [] := by
  induction t generalizing skip piece with
  | nil => simp [cutFrom]
  | cons c rest ih =>
    cases skip with
    | zero =>
      rw [cutFrom]
      split_ifs
      · exact List.cons_ne_nil _ _
      · exact ih _ _
    | succ skip => exact ih _ _

theorem intercalate_cutFrom (mark : Char) (replacement piece t : Text) :
    replacement.intercalate (cutFrom [mark] 0 piece t) =
      piece.reverse ++ t.flatMap fun c => if c = mark then replacement else [c] := by
  induction t generalizing piece with
  | nil => simp [cutFrom]
  | cons c rest ih =>
    rw [cutFrom, List.flatMap_cons]
    by_cases hc : c = mark
    · subst hc
      obtain ⟨next, others, hpieces⟩ := List.exists_cons_of_ne_nil (cutFrom_ne_nil [c] 0 [] rest)
      have hrest := ih []
      simp only [List.isPrefixOf, beq_self_eq_true, Bool.and_self, if_true, List.length_singleton,
        Nat.sub_self, hpieces] at hrest ⊢
      rw [List.intercalate_cons_cons, hrest]
      simp
    · have hother : [mark].isPrefixOf (c :: rest) = false := by simp [List.isPrefixOf, Ne.symm hc]
      rw [hother, if_neg (by simp), ih, if_neg hc]
      simp

theorem replaceAll_singleton (mark : Char) (replacement t : Text) :
    replaceAll [mark] replacement t =
      t.flatMap fun c => if c = mark then replacement else [c] := by
  rw [replaceAll, cutAt, intercalate_cutFrom]
  rfl

theorem linesFrom_replaceAll {t : Text} (h : '\r' ∉ t) (done : List Text) {current : Text}
    (hcurrent : '\r' ∉ current) :
    linesFrom done current (replaceAll "\n" "\r\n" t) = linesFrom done current t := by
  have hmark : ("\n" : Text) = ['\n'] := rfl
  rw [hmark, replaceAll_singleton]
  induction t generalizing done current with
  | nil => rfl
  | cons c rest ih =>
    obtain ⟨hc, hrest⟩ := List.ne_and_not_mem_of_not_mem_cons h
    rw [List.flatMap_cons]
    split_ifs with hfeed
    · subst hfeed
      have hpair (tail : Text) : ("\r\n" : Text) ++ tail = '\r' :: '\n' :: tail := rfl
      have hended : endedLine ('\r' :: current) = endedLine current :=
        (endedLine_of_not_mem hcurrent).symm
      rw [hpair, linesFrom_cons (by decide), linesFrom_feed, linesFrom_feed, hended]
      exact ih hrest _ (by simp)
    · rw [List.singleton_append, linesFrom_cons hfeed, linesFrom_cons hfeed]
      exact ih hrest _ (by simp [hc, hcurrent])

theorem lines_replaceAll {t : Text} (h : '\r' ∉ t) :
    lines (replaceAll "\n" "\r\n" t) = lines t :=
  linesFrom_replaceAll h [] (by simp)

theorem linesFrom_concat_feed {t : Text} (h : '\r' ∉ t) (done : List Text) {current : Text}
    (hcurrent : '\r' ∉ current)
    (hlast : (linesFrom done current (t ++ ['\n'])).getLast? ≠ some []) :
    linesFrom done current (t ++ ['\n']) = linesFrom done current t := by
  induction t generalizing done current with
  | nil =>
    rw [List.nil_append, linesFrom_feed, endedLine_of_not_mem hcurrent] at hlast ⊢
    have hne : current ≠ [] := by
      intro hempty
      simp [hempty, linesFrom] at hlast
    rw [linesFrom_nil hne]
    rfl
  | cons c rest ih =>
    obtain ⟨hc, hrest⟩ := List.ne_and_not_mem_of_not_mem_cons h
    rw [List.cons_append] at hlast ⊢
    by_cases hfeed : c = '\n'
    · subst hfeed
      rw [linesFrom_feed] at hlast ⊢
      rw [linesFrom_feed]
      exact ih hrest _ (by simp) hlast
    · rw [linesFrom_cons hfeed] at hlast ⊢
      rw [linesFrom_cons hfeed]
      exact ih hrest _ (by simp [hc, hcurrent]) hlast

theorem lines_concat_feed {t : Text} (h : '\r' ∉ t)
    (hlast : (lines (t ++ ['\n'])).getLast? ≠ some []) : lines (t ++ ['\n']) = lines t :=
  linesFrom_concat_feed h [] (by simp) hlast

end ContractProxy.Text
