import ModelApi.Text.Join

/-!
# Splitting at a separator

A separator between two texts divides their pieces, and a text without the separator is one piece. Together this takes
apart every text that was put together with separators.

* `split_joinWith`: pieces without the separator are got back from the text that joins them;
* `mem_joinWith`: the characters of such a text are those of the pieces and of the separator;
* `joinWith_split`: every text is got back from its pieces;
* `toString_injective`, `notMem_toString`: numbers can be pieces, if no digit is the separator.
-/

namespace ModelApi.Text

theorem notMem_append {c : Char} {s t : String} (hs : c ∉ s.toList) (ht : c ∉ t.toList) : c ∉ (s ++ t).toList := by
  rw [String.toList_append, List.mem_append]
  exact fun hm => hm.elim hs ht

theorem splitChars_of_notMem {sep : Char} : ∀ {cs : List Char}, sep ∉ cs → splitChars sep cs = [cs]
  | [], _ => rfl
  | c :: cs, h => by
    have hc : c ≠ sep := fun e => h (e ▸ List.mem_cons_self)
    have hcs : sep ∉ cs := fun hm => h (List.mem_cons_of_mem _ hm)
    simp only [splitChars, hc, if_false, splitChars_of_notMem hcs]

theorem splitChars_ne_nil (sep : Char) (cs : List Char) : splitChars sep cs ≠ [] := by
  cases cs with
  | nil => exact List.cons_ne_nil _ _
  | cons c cs =>
    rw [splitChars]
    split
    · exact List.cons_ne_nil _ _
    · split <;> exact List.cons_ne_nil _ _

theorem splitChars_cons_of_ne {sep c : Char} (hc : c ≠ sep) (cs : List Char) :
    ∃ piece pieces, splitChars sep cs = piece :: pieces ∧ splitChars sep (c :: cs) = (c :: piece) :: pieces := by
  obtain ⟨piece, pieces, hsplit⟩ := List.exists_cons_of_ne_nil (splitChars_ne_nil sep cs)
  exact ⟨piece, pieces, hsplit, by simp only [splitChars, hc, if_false, hsplit]⟩

theorem splitChars_append (sep : Char) (cs rest : List Char) :
    splitChars sep (cs ++ sep :: rest) = splitChars sep cs ++ splitChars sep rest := by
  induction cs with
  | nil => simp [splitChars]
  | cons c cs ih =>
    by_cases hc : c = sep
    · simp only [List.cons_append, splitChars, hc, if_true, ih]
    · obtain ⟨piece, pieces, hsplit, hcons⟩ := splitChars_cons_of_ne hc cs
      rw [hcons]
      simp only [List.cons_append, splitChars, hc, if_false, ih, hsplit]

theorem notMem_of_mem_splitChars {sep : Char} {cs piece : List Char} (h : piece ∈ splitChars sep cs) : sep ∉ piece := by
  induction cs generalizing piece with
  | nil =>
    rw [List.mem_singleton.1 h]
    exact List.not_mem_nil
  | cons c cs ih =>
    by_cases hc : c = sep
    · rw [splitChars, if_pos hc] at h
      rcases List.mem_cons.1 h with rfl | h
      · exact List.not_mem_nil
      · exact ih h
    · obtain ⟨first, pieces, hsplit, hcons⟩ := splitChars_cons_of_ne hc cs
      rw [hcons] at h
      rcases List.mem_cons.1 h with rfl | h
      · have hfirst : sep ∉ first := ih (hsplit ▸ List.mem_cons_self)
        exact fun hm => (List.mem_cons.1 hm).elim (Ne.symm hc) hfirst
      · exact ih (hsplit ▸ List.mem_cons_of_mem _ h)

/-- A text without the separator is one piece. -/
theorem split_of_notMem {sep : Char} {s : String} (h : sep ∉ s.toList) : split sep s = [s] := by
  unfold split
  rw [splitChars_of_notMem h]
  simp

/-- A separator between two texts divides their pieces. -/
theorem split_append (sep : Char) (s t : String) :
    split sep (s ++ String.singleton sep ++ t) = split sep s ++ split sep t := by
  unfold split
  rw [String.toList_append, String.toList_append, String.toList_singleton, List.append_assoc, List.singleton_append,
    splitChars_append, List.map_append]

/-- Pieces without the separator are got back from the text that joins them. -/
theorem split_joinWith {sep : Char} {parts : List String} (hne : parts ≠ []) (h : ∀ s ∈ parts, sep ∉ s.toList) :
    split sep (joinWith (String.singleton sep) parts) = parts := by
  induction parts using joinWith.induct with
  | case1 => exact absurd rfl hne
  | case2 s => exact split_of_notMem (h s List.mem_cons_self)
  | case3 s t rest ih =>
    rw [joinWith, split_append, split_of_notMem (h s List.mem_cons_self),
      ih (List.cons_ne_nil _ _) fun u hu => h u (List.mem_cons_of_mem _ hu)]
    rfl

theorem joinWith_concat (sep t : String) {parts : List String} (hne : parts ≠ []) :
    joinWith sep (parts ++ [t]) = joinWith sep parts ++ sep ++ t := by
  induction parts with
  | nil => exact absurd rfl hne
  | cons s parts ih =>
    cases parts with
    | nil => rfl
    | cons u parts =>
      have hrest : joinWith sep (u :: (parts ++ [t])) = _ := ih (List.cons_ne_nil u parts)
      rw [List.cons_append, List.cons_append, joinWith, hrest, joinWith, ← String.append_assoc, ← String.append_assoc]

theorem joinWith_cons_append (sep s t : String) (parts : List String) :
    joinWith sep ((s ++ t) :: parts) = s ++ joinWith sep (t :: parts) := by
  cases parts with
  | nil => rfl
  | cons u parts => rw [joinWith, joinWith, String.append_assoc, String.append_assoc, String.append_assoc]

/-- A text is got back from its pieces. -/
theorem joinWith_split (sep : Char) (s : String) : joinWith (String.singleton sep) (split sep s) = s := by
  -- over characters, so that the induction can drop the first one
  suffices h : ∀ cs, joinWith (String.singleton sep) ((splitChars sep cs).map String.ofList) = String.ofList cs by
    rw [split, h, String.ofList_toList]
  intro cs
  induction cs with
  | nil => rfl
  | cons c cs ih =>
    have hcons : String.ofList (c :: cs) = String.singleton c ++ String.ofList cs := by simp
    by_cases hc : c = sep
    · obtain ⟨piece, pieces, hsplit⟩ := List.exists_cons_of_ne_nil (splitChars_ne_nil sep cs)
      rw [splitChars, if_pos hc, hcons, ← ih, hsplit, hc]
      rfl
    · obtain ⟨piece, pieces, hsplit, hpieces⟩ := splitChars_cons_of_ne hc cs
      have hpiece : String.ofList (c :: piece) = String.singleton c ++ String.ofList piece := by simp
      rw [hpieces, List.map_cons, hpiece, joinWith_cons_append, hcons, ← ih, hsplit, List.map_cons]

theorem mem_joinWith {sep : String} {parts : List String} {c : Char} (hc : c ∈ (joinWith sep parts).toList) :
    c ∈ sep.toList ∨ ∃ s ∈ parts, c ∈ s.toList := by
  induction parts using joinWith.induct with
  | case1 => cases hc
  | case2 s => exact .inr ⟨s, List.mem_cons_self, hc⟩
  | case3 s t rest ih =>
    rw [joinWith, String.toList_append, String.toList_append, List.mem_append, List.mem_append] at hc
    rcases hc with (hc | hc) | hc
    · exact .inr ⟨s, List.mem_cons_self, hc⟩
    · exact .inl hc
    · exact (ih hc).imp_right fun ⟨u, hu, hmem⟩ => ⟨u, List.mem_cons_of_mem _ hu, hmem⟩

/-- Every piece stands somewhere in the text that joins them. -/
theorem joinWith_of_mem (sep : String) {s : String} {parts : List String} (hs : s ∈ parts) :
    ∃ before after, joinWith sep parts = before ++ s ++ after := by
  induction parts using joinWith.induct with
  | case1 => cases hs
  | case2 t =>
    rw [List.mem_singleton.1 hs]
    exact ⟨"", "", by simp [joinWith]⟩
  | case3 t u rest ih =>
    rcases List.mem_cons.1 hs with rfl | hs
    · exact ⟨"", sep ++ joinWith sep (u :: rest), by rw [joinWith, String.empty_append, String.append_assoc]⟩
    · obtain ⟨before, after, hjoin⟩ := ih hs
      exact ⟨t ++ sep ++ before, after, by rw [joinWith, hjoin, String.append_assoc, String.append_assoc,
        String.append_assoc, String.append_assoc, String.append_assoc]⟩

/-! ## numbers as pieces -/

theorem toList_toString (n : Nat) : (toString n).toList = Nat.toDigits 10 n := by simp

theorem isDigit_of_mem_toString {n : Nat} {c : Char} (h : c ∈ (toString n).toList) : c.isDigit = true := by
  rw [toList_toString] at h
  exact Nat.isDigit_of_mem_toDigits (by omega) (by omega) h

theorem notMem_toString {c : Char} (hc : c.isDigit = false) (n : Nat) : c ∉ (toString n).toList := by
  intro h
  rw [isDigit_of_mem_toString h] at hc
  cases hc

theorem notMem_toString_int {c : Char} (hc : c.isDigit = false) (hsign : c ≠ '-') (n : Int) : c ∉ (toString n).toList := by
  cases n with
  | ofNat m => exact notMem_toString hc m
  | negSucc m =>
    have hminus : c ∉ "-".toList := fun hm => hsign (List.mem_singleton.1 hm)
    exact notMem_append hminus (notMem_toString hc (m + 1))

theorem toString_injective {m n : Nat} (h : toString m = toString n) : m = n := by
  have hdigits := congrArg String.toList h
  rw [toList_toString, toList_toString] at hdigits
  calc m
      = Nat.ofDigitChars 10 (Nat.toDigits 10 m) 0 := Nat.ofDigitChars_ten_toDigits.symm
    _ = Nat.ofDigitChars 10 (Nat.toDigits 10 n) 0 := by rw [hdigits]
    _ = n := Nat.ofDigitChars_ten_toDigits

end ModelApi.Text
