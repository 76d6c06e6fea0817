/-!
# Cutting text at a character
-/

namespace VisualNovel.Text

/-- The pieces between the occurrences of `separator`: one more than there are occurrences. -/
def pieces (separator : Char) : List Char → List (List Char)
  | [] => [[]]
  | c :: rest =>
    if c = separator then [] :: pieces separator rest
    else match pieces separator rest with
      | [] => [[c]]
      | piece :: more => (c :: piece) :: more

variable {separator : Char} {text piece : List Char}

theorem pieces_ne_nil (separator : Char) (text : List Char) : pieces separator text ≠ [] := by
  cases text with
  | nil => exact List.cons_ne_nil _ _
  | cons c rest =>
    unfold pieces
    split
    · exact List.cons_ne_nil _ _
    · split <;> exact List.cons_ne_nil _ _

theorem pieces_of_not_mem (h : separator ∉ text) : pieces separator text = [text] := by
  induction text with
  | nil => rfl
  | cons c rest ih =>
    obtain ⟨hc, hrest⟩ := not_or.1 (mt List.mem_cons.2 h)
    rw [pieces, if_neg (Ne.symm hc), ih hrest]

/-- A separator starts a new piece. -/
theorem pieces_append (separator : Char) (start rest : List Char) :
    pieces separator (start ++ separator :: rest) = pieces separator start ++ pieces separator rest := by
  induction start with
  | nil => simp [pieces]
  | cons c start ih =>
    rw [List.cons_append, pieces, pieces, ih]
    split
    · rfl
    · obtain ⟨piece, more, hpieces⟩ := List.exists_cons_of_ne_nil (pieces_ne_nil separator start)
      rw [hpieces]
      rfl

/-- A piece holds characters of the text, and no separator. -/
theorem mem_of_mem_pieces (h : piece ∈ pieces separator text) {c : Char} (hc : c ∈ piece) :
    c ∈ text ∧ c ≠ separator := by
  induction text generalizing piece with
  | nil =>
    cases List.mem_singleton.1 h
    cases hc
  | cons d rest ih =>
    have hmore : ∀ {piece}, piece ∈ pieces separator rest → c ∈ piece → c ∈ d :: rest ∧ c ≠ separator :=
      fun h hc => (ih h hc).imp_left (List.mem_cons_of_mem d)
    unfold pieces at h
    split at h
    · rcases List.mem_cons.1 h with rfl | hrest
      · cases hc
      · exact hmore hrest hc
    · next hd =>
      obtain ⟨first, more, hpieces⟩ := List.exists_cons_of_ne_nil (pieces_ne_nil separator rest)
      rw [hpieces] at h hmore
      rcases List.mem_cons.1 h with rfl | hrest
      · rcases List.mem_cons.1 hc with rfl | hfirst
        · exact ⟨List.mem_cons_self, hd⟩
        · exact hmore List.mem_cons_self hfirst
      · exact hmore (List.mem_cons_of_mem _ hrest) hc

end VisualNovel.Text
