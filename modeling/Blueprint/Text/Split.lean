/-!
Cutting text at a character. Main statements: a cut puts back together to the text, and the piece
on the far side does not contain the character.
-/

namespace Blueprint.Text

/-- The pieces before and after the first occurrence of a character. -/
def splitFirst? (c : Char) : List Char → Option (List Char × List Char)
  | [] => none
  | d :: rest =>
    if d = c then some ([],rest)
    else (splitFirst? c rest).map fun (before,after) => (d :: before,after)

/-- The pieces before and after the last occurrence of a character. -/
def splitLast? (c : Char) : List Char → Option (List Char × List Char)
  | [] => none
  | d :: rest =>
    match splitLast? c rest with
    | some (before,after) => some (d :: before,after)
    | none => if d = c then some ([],rest) else none

theorem splitFirst?_eq_some {c : Char} {text before after : List Char}
    (h : splitFirst? c text = some (before,after)) :
    text = before ++ c :: after ∧ c ∉ before := by
  induction text generalizing before after with
  | nil => simp [splitFirst?] at h
  | cons d rest ih =>
    simp only [splitFirst?] at h
    split at h
    · next hd => simp_all
    · next hd =>
      obtain ⟨⟨b,a⟩,hb,he⟩ := Option.map_eq_some_iff.1 h
      simp only [Prod.mk.injEq] at he
      obtain ⟨rfl,rfl⟩ := he
      obtain ⟨rfl,hn⟩ := ih hb
      exact ⟨rfl,by simp [hn,Ne.symm hd]⟩

theorem splitLast?_eq_none {c : Char} {text : List Char} :
    splitLast? c text = none ↔ c ∉ text := by
  induction text with
  | nil => simp [splitLast?]
  | cons d rest ih =>
    simp only [splitLast?]
    split
    · next h => simp [h] at ih; simp [ih]
    · next h =>
      rw [h] at ih
      simp only [true_iff] at ih
      by_cases hd : d = c <;> simp [hd,ih]
      exact fun e => hd e.symm

theorem splitLast?_eq_some {c : Char} {text before after : List Char}
    (h : splitLast? c text = some (before,after)) :
    text = before ++ c :: after ∧ c ∉ after := by
  induction text generalizing before after with
  | nil => simp [splitLast?] at h
  | cons d rest ih =>
    simp only [splitLast?] at h
    split at h
    · next b a hb =>
      simp only [Option.some.injEq,Prod.mk.injEq] at h
      obtain ⟨rfl,rfl⟩ := h
      obtain ⟨rfl,hn⟩ := ih hb
      exact ⟨rfl,hn⟩
    · next hb =>
      split at h
      · next hd =>
        simp only [Option.some.injEq,Prod.mk.injEq] at h
        obtain ⟨rfl,rfl⟩ := h
        exact ⟨by simp [hd],splitLast?_eq_none.1 hb⟩
      · simp at h

/-- Text is cut where it is joined by a character that the piece before does not contain. -/
theorem splitFirst?_append {c : Char} {before : List Char} (h : c ∉ before) (after : List Char) :
    splitFirst? c (before ++ c :: after) = some (before,after) := by
  induction before with
  | nil => simp [splitFirst?]
  | cons d before ih =>
    rw [List.mem_cons,not_or] at h
    simp [splitFirst?,ih h.2,Ne.symm h.1]

/-- Text is cut where it is joined by a character that the piece behind does not contain. -/
theorem splitLast?_append {c : Char} {after : List Char} (h : c ∉ after) (before : List Char) :
    splitLast? c (before ++ c :: after) = some (before,after) := by
  induction before with
  | nil => simp [splitLast?,splitLast?_eq_none.2 h]
  | cons d before ih => simp [splitLast?,ih]

end Blueprint.Text
