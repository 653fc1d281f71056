import ModelApi.Proofs.Text.Join
import ModelApi.Text.Camel

/-!
# What camel case keeps

Camel case forgets where words were separated and which of their letters were capital, and it keeps everything else: in
an ASCII text, the letters and digits themselves, in their order.

* `letters`: what is left of a text without separators and case;
* `flatten_words`: cutting a text into words loses the separators only;
* `letters_lowerCamel`: a text and its camel case have the same letters;
* `letters_joinWith`: which separator joins the pieces of a text does not matter, as long as it is no letter.
-/

namespace ModelApi.Text

/-- The letters and digits of a text, in lower case. -/
def letters (cs : List Char) : List Char := (cs.filter Char.isAlphanum).map Char.toLower

@[simp] theorem letters_append (cs ds : List Char) : letters (cs ++ ds) = letters cs ++ letters ds := by
  rw [letters, List.filter_append, List.map_append]
  rfl

/-! ## words -/

/-- Words in progress are part of the piece. -/
theorem flatten_wordsFrom (s : Stretch) (word : List Char) {piece : List Char} (h : piece ≠ []) :
    (wordsFrom s word piece).flatten = word.reverse ++ piece := by
  induction s, word, piece using wordsFrom.induct with
  | case1 => exact absurd rfl h
  | case2 s word c => simp [wordsFrom]
  | case3 s word c next rest hbreak ih =>
    rw [wordsFrom, if_pos hbreak, List.flatten_cons, ih (List.cons_ne_nil _ _)]
    simp
  | case4 s word c next rest hbreak hlast ih =>
    rw [wordsFrom, if_neg hbreak, if_pos hlast, List.flatten_cons, ih (List.cons_ne_nil _ _)]
    simp
  | case5 s word c next rest hbreak hlast ih =>
    rw [wordsFrom, if_neg hbreak, if_neg hlast, ih (List.cons_ne_nil _ _)]
    simp

theorem flatten_pieces (cs : List Char) : (alphanumericPieces cs).flatten = cs.filter isAlphanumeric := by
  induction cs with
  | nil => rfl
  | cons c cs ih =>
    rw [alphanumericPieces, List.filter_cons, ← ih]
    split
    next =>
      cases alphanumericPieces cs <;> rfl
    next => rfl

/-- Cutting a text into words loses the separators only. -/
theorem flatten_words (s : String) : (words s).flatten = s.toList.filter isAlphanumeric := by
  have hpiece : List.flatten ∘ wordsFrom .boundary [] = id := by
    funext piece
    by_cases h : piece = []
    · rw [h]
      rfl
    · exact flatten_wordsFrom .boundary [] h
  rw [words, List.flatMap_def, List.flatten_flatten, List.map_map, hpiece, List.map_id, flatten_pieces]

/-! ## ASCII texts -/

/-- A text without characters beyond ASCII. -/
def Ascii (cs : List Char) : Prop := ∀ c ∈ cs, c.toNat < 128

theorem toNat_lt_of_isAlphanum {c : Char} (h : c.isAlphanum = true) : c.toNat < 128 := by
  have hrange : ∀ last : Char, last.toNat < 128 → c.val ≤ last.val → c.toNat < 128 :=
    fun last hlast hle => Nat.lt_of_le_of_lt (UInt32.le_iff_toNat_le.1 hle) hlast
  rcases Bool.or_eq_true_iff.1 h with h | h
  · rcases Bool.or_eq_true_iff.1 h with h | h
    · exact hrange 'Z' (by decide) (of_decide_eq_true h).2
    · exact hrange 'z' (by decide) (of_decide_eq_true (Bool.and_eq_true_iff.1 h).2)
  · exact hrange '9' (by decide) (of_decide_eq_true (Bool.and_eq_true_iff.1 h).2)

theorem Ascii.of_cons {c : Char} {cs : List Char} (h : Ascii (c :: cs)) : c.toNat < 128 ∧ Ascii cs :=
  ⟨h c List.mem_cons_self, fun d hd => h d (List.mem_cons_of_mem _ hd)⟩

/-- What holds of the first 128 characters holds of every ASCII character. -/
theorem ascii_forall {P : Char → Prop} (h : ∀ n < 128, P (Char.ofNat n)) {c : Char} (hc : c.toNat < 128) : P c := by
  have hn := h c.toNat hc
  rwa [Char.ofNat_toNat] at hn

/-- Changing the case of a character changes neither that it is a letter or digit nor which one. -/
theorem case_of_ascii {c : Char} (hc : c.toNat < 128) :
    (c.toLower.isAlphanum = c.isAlphanum ∧ c.toLower.toLower = c.toLower) ∧
      (c.toUpper.isAlphanum = c.isAlphanum ∧ c.toUpper.toLower = c.toLower) := by
  refine ascii_forall (P := fun c => (c.toLower.isAlphanum = c.isAlphanum ∧ c.toLower.toLower = c.toLower) ∧
    (c.toUpper.isAlphanum = c.isAlphanum ∧ c.toUpper.toLower = c.toLower)) ?_ hc
  decide

theorem letters_cons (c : Char) (cs : List Char) :
    letters (c :: cs) = (if c.isAlphanum then [c.toLower] else []) ++ letters cs := by
  rw [letters, List.filter_cons]
  split <;> rfl

theorem letters_map_toLower {cs : List Char} (h : Ascii cs) : letters (cs.map Char.toLower) = letters cs := by
  induction cs with
  | nil => rfl
  | cons c cs ih =>
    obtain ⟨hc, hcs⟩ := h.of_cons
    obtain ⟨⟨hkind, hcase⟩, -⟩ := case_of_ascii hc
    rw [List.map_cons, letters_cons, letters_cons, hkind, hcase, ih hcs]

theorem lowercased_of_ascii {word : List Char} (h : Ascii word) : lowercased word = word.map Char.toLower := by
  induction word using lowercased.induct with
  | case1 => rfl
  | case2 => exact absurd h.of_cons.1 (by decide)
  | case3 c hsigma =>
    rw [lowercased, if_neg hsigma, toLower, if_pos h.of_cons.1]
    rfl
  | case4 c next rest ih =>
    rw [lowercased, ih h.of_cons.2, toLower, if_pos h.of_cons.1]
    rfl

theorem letters_lowercased {word : List Char} (h : Ascii word) : letters (lowercased word) = letters word := by
  rw [lowercased_of_ascii h, letters_map_toLower h]

theorem letters_capitalized {word : List Char} (h : Ascii word) : letters (capitalized word) = letters word := by
  cases word with
  | nil => rfl
  | cons c rest =>
    obtain ⟨hc, hrest⟩ := h.of_cons
    obtain ⟨-, hkind, hcase⟩ := case_of_ascii hc
    rw [capitalized, toUpper, if_pos hc, List.singleton_append, letters_cons, letters_cons, hkind, hcase,
      letters_lowercased hrest]

theorem letters_flatMap_capitalized {ws : List (List Char)} (h : ∀ word ∈ ws, Ascii word) :
    letters (ws.flatMap capitalized) = letters ws.flatten := by
  induction ws with
  | nil => rfl
  | cons word ws ih =>
    rw [List.flatMap_cons, List.flatten_cons, letters_append, letters_append,
      letters_capitalized (h word List.mem_cons_self), ih fun w hw => h w (List.mem_cons_of_mem _ hw)]

/-- A text and its camel case have the same letters. -/
theorem letters_lowerCamel {s : String} (h : Ascii s.toList) : letters (lowerCamel s).toList = letters s.toList := by
  have hwords : (words s).flatten = s.toList.filter Char.isAlphanum := by
    rw [flatten_words]
    refine List.filter_congr fun c hc => ?_
    rw [isAlphanumeric, if_pos (h c hc)]
  have hascii : ∀ word ∈ words s, Ascii word := by
    intro word hword c hc
    have hmem : c ∈ (words s).flatten := List.mem_flatten.2 ⟨word, hword, hc⟩
    rw [hwords] at hmem
    exact h c (List.mem_filter.1 hmem).1
  have hsame : letters (s.toList.filter Char.isAlphanum) = letters s.toList := by
    rw [letters, List.filter_filter, letters]
    simp only [Bool.and_self]
  rw [← hsame, ← hwords, lowerCamel]
  cases hsplit : words s with
  | nil => rfl
  | cons first rest =>
    rw [hsplit] at hascii
    rw [String.toList_ofList, letters_append, letters_lowercased (hascii first List.mem_cons_self),
      letters_flatMap_capitalized fun w hw => hascii w (List.mem_cons_of_mem _ hw), List.flatten_cons, letters_append]

/-! ## joined texts -/

theorem ascii_joinWith {sep : String} {parts : List String} (hsep : Ascii sep.toList)
    (h : ∀ s ∈ parts, Ascii s.toList) : Ascii (joinWith sep parts).toList := by
  intro c hc
  rcases mem_joinWith hc with hc | ⟨s, hs, hc⟩
  · exact hsep c hc
  · exact h s hs c hc

theorem letters_joinWith {sep : String} (hsep : letters sep.toList = []) (parts : List String) :
    letters (joinWith sep parts).toList = parts.flatMap fun s => letters s.toList := by
  induction parts using joinWith.induct with
  | case1 => rfl
  | case2 s => simp [joinWith]
  | case3 s t rest ih =>
    rw [joinWith, String.toList_append, String.toList_append, letters_append, letters_append, hsep, List.append_nil, ih]
    rfl

end ModelApi.Text
