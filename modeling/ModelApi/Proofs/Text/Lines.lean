import Mathlib.Data.List.Basic
import ModelApi.Proofs.Text.Join

/-!
# Lines and indentation

* `lines`: the lines of a text; `indentLines`: the text with an indentation in front of every line;
* `hang`: the same for every line but the first. Other than `indentLines`, it can be taken apart with the text:
  `hang_append`, `hang_of_notMem`, `hang_of_endsLine`;
* `indentLines_eq`: indenting is hanging, with the indentation in front of the first line;
* `lines_append`, `lines_joinWith`, `lines_indentLines`: the lines of texts that are put together.
-/

namespace ModelApi.Text

/-- The lines of a text; there is always at least one. -/
def lines (s : String) : List String := split '\n' s

/-- The text with `indent` in front of every line. -/
def indentLines (indent s : String) : String := joinWith "\n" ((lines s).map (indent ++ ·))

/-- The text with `indent` in front of every line but the first. -/
def hang (indent s : String) : String :=
  String.ofList (s.toList.flatMap fun c => if c = '\n' then '\n' :: indent.toList else [c])

/-- The text is the end of a line: its only newline is its last character. -/
def EndsLine (s : String) : Prop := '\n' ∉ s.toList.dropLast ∧ s.toList.getLast? = some '\n'

instance (s : String) : Decidable (EndsLine s) := inferInstanceAs (Decidable (_ ∧ _))

theorem EndsLine.toList_eq {s : String} (h : EndsLine s) : s.toList = s.toList.dropLast ++ ['\n'] :=
  (List.dropLast_append_getLast? _ h.2).symm

/-! ## hanging indentation -/

theorem toList_hang (indent s : String) :
    (hang indent s).toList = s.toList.flatMap fun c => if c = '\n' then '\n' :: indent.toList else [c] :=
  String.toList_ofList

theorem hang_append (indent s t : String) : hang indent (s ++ t) = hang indent s ++ hang indent t := by
  rw [hang, hang, hang, String.toList_append, List.flatMap_append, String.ofList_append]

theorem hang_of_notMem (indent : String) {s : String} (h : '\n' ∉ s.toList) : hang indent s = s := by
  have hkept : (s.toList.flatMap fun c => if c = '\n' then '\n' :: indent.toList else [c]) =
      s.toList.flatMap fun c => [c] := by
    refine List.flatMap_congr fun c hc => if_neg ?_
    rintro rfl
    exact h hc
  rw [hang, hkept, List.flatMap_singleton', String.ofList_toList]

/-- After the end of a line the indentation follows. -/
theorem hang_of_endsLine (indent : String) {s : String} (h : EndsLine s) : hang indent s = s ++ indent := by
  have hkept := hang_of_notMem indent (s := String.ofList s.toList.dropLast) (by rw [String.toList_ofList]; exact h.1)
  have hs : s = String.ofList s.toList.dropLast ++ "\n" := by
    rw [← String.toList_inj, String.toList_append, String.toList_ofList]
    exact h.toList_eq
  have hnewline : hang indent "\n" = "\n" ++ indent := by
    rw [← String.toList_inj, toList_hang, String.toList_append]
    simp
  rw [hs, hang_append, hkept, hnewline, String.append_assoc]

/-! ## lines -/

theorem lines_ne_nil (s : String) : lines s ≠ [] :=
  fun h => splitChars_ne_nil '\n' s.toList (List.map_eq_nil_iff.1 h)

/-- A newline between two texts divides their lines. -/
theorem lines_append (s t : String) : lines (s ++ "\n" ++ t) = lines s ++ lines t := split_append '\n' s t

theorem lines_joinWith {parts : List String} (hne : parts ≠ []) : lines (joinWith "\n" parts) = parts.flatMap lines := by
  induction parts using joinWith.induct with
  | case1 => exact absurd rfl hne
  | case2 s => rw [joinWith, List.flatMap_singleton]
  | case3 s t rest ih =>
    rw [joinWith, lines_append, ih (List.cons_ne_nil _ _)]
    exact List.flatMap_cons.symm

theorem joinWith_lines (s : String) : joinWith "\n" (lines s) = s := joinWith_split '\n' s

theorem notMem_of_mem_lines {s line : String} (h : line ∈ lines s) : '\n' ∉ line.toList := by
  obtain ⟨piece, hpiece, rfl⟩ := List.mem_map.1 h
  rw [String.toList_ofList]
  exact notMem_of_mem_splitChars hpiece

/-! ## indentation -/

theorem joinWith_map_append (sep indent : String) {parts : List String} (hne : parts ≠ []) :
    joinWith sep (parts.map (indent ++ ·)) = indent ++ joinWith (sep ++ indent) parts := by
  induction parts using joinWith.induct with
  | case1 => exact absurd rfl hne
  | case2 s => rfl
  | case3 s t rest ih =>
    have htail := ih (List.cons_ne_nil _ _)
    rw [List.map_cons] at htail
    rw [List.map_cons, List.map_cons, joinWith, joinWith, htail]
    simp only [String.append_assoc]

theorem hang_joinWith (indent sep : String) (parts : List String) :
    hang indent (joinWith sep parts) = joinWith (hang indent sep) (parts.map (hang indent)) := by
  induction parts using joinWith.induct with
  | case1 => rfl
  | case2 s => rfl
  | case3 s t rest ih =>
    rw [joinWith, hang_append, hang_append, ih]
    rfl

/-- Indenting is hanging, with the indentation in front of the first line. -/
theorem indentLines_eq (indent s : String) : indentLines indent s = indent ++ hang indent s := by
  have hnewline : hang indent "\n" = "\n" ++ indent := hang_of_endsLine indent (by decide)
  have hkept : (lines s).map (hang indent) = lines s :=
    (List.map_congr_left fun line hline => hang_of_notMem indent (notMem_of_mem_lines hline)).trans (List.map_id _)
  calc indentLines indent s
      = indent ++ joinWith ("\n" ++ indent) (lines s) := joinWith_map_append "\n" indent (lines_ne_nil s)
    _ = indent ++ hang indent (joinWith "\n" (lines s)) := by rw [hang_joinWith, hnewline, hkept]
    _ = indent ++ hang indent s := by rw [joinWith_lines]

/-- The lines of an indented text are its lines, each behind the indentation. -/
theorem lines_indentLines {indent : String} (h : '\n' ∉ indent.toList) (s : String) :
    lines (indentLines indent s) = (lines s).map (indent ++ ·) := by
  refine split_joinWith (fun hnil => lines_ne_nil s (List.map_eq_nil_iff.1 hnil)) fun part hpart => ?_
  obtain ⟨line, hline, rfl⟩ := List.mem_map.1 hpart
  exact notMem_append h (notMem_of_mem_lines hline)

end ModelApi.Text
