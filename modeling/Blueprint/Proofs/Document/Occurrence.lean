import Blueprint.Proofs.Document.Position

/-!
Where one text stands in another, as a range of bytes. A search finds the first such range, if there
is any. What stands within a range of bytes is part of the text that stands at this range.
-/

namespace Blueprint.Document

theorem byteLength_eq_zero_iff {text : List Char} : byteLength text = 0 ↔ text = [] := by
  cases text with
  | nil => simp [byteLength]
  | cons c text =>
    have hpos := c.utf8Size_pos
    simp only [byteLength,reduceCtorEq,iff_false]
    omega

/-- Of two beginnings of a text, the one of fewer bytes is a beginning of the other. -/
theorem prefix_of_byteLength_le {a b text : List Char} (ha : a <+: text) (hb : b <+: text)
    (h : byteLength a ≤ byteLength b) : a <+: b := by
  rcases List.prefix_or_prefix_of_prefix ha hb with hab | ⟨rest,rfl⟩
  · exact hab
  · rw [byteLength_append] at h
    have hrest : rest = [] := byteLength_eq_zero_iff.mp (by omega)
    exact ⟨[],by rw [hrest,List.append_nil,List.append_nil]⟩

/-! ### Occurrences -/

/-- A text stands at a range of bytes of another. -/
def StandsAt (needle text : List Char) (span : Span) : Prop :=
  ∃ before after, text = before ++ needle ++ after ∧
    span = ⟨byteLength before,byteLength before + byteLength needle⟩

/-- A range of bytes covers a place at which a text stands. -/
def StandsWithin (needle text : List Char) (span : Span) : Prop :=
  ∃ place, StandsAt needle text place ∧ span.start ≤ place.start ∧ place.stop ≤ span.stop

/-- A text stands at a range of bytes, and at none that begins before. -/
def FirstAt (needle text : List Char) (span : Span) : Prop :=
  StandsAt needle text span ∧ ∀ place, StandsAt needle text place → span.start ≤ place.start

variable {needle text : List Char} {span : Span}

theorem StandsAt.isInfix (h : StandsAt needle text span) : needle <:+: text := by
  obtain ⟨before,after,hsplit,_⟩ := h
  exact ⟨before,after,hsplit.symm⟩

theorem StandsAt.within (h : StandsAt needle text span) : StandsWithin needle text span :=
  ⟨span,h,Nat.le_refl _,Nat.le_refl _⟩

theorem StandsAt.cons (h : StandsAt needle text span) (c : Char) :
    StandsAt needle (c :: text) ⟨c.utf8Size + span.start,c.utf8Size + span.stop⟩ := by
  obtain ⟨before,after,rfl,rfl⟩ := h
  exact ⟨c :: before,after,rfl,by simp [byteLength,Nat.add_assoc]⟩

/-- An occurrence is at the beginning of a text or behind its first character. -/
theorem StandsAt.cons_cases {c : Char} (h : StandsAt needle (c :: text) span) :
    needle <+: c :: text ∨ ∃ place, StandsAt needle text place ∧
      span = ⟨c.utf8Size + place.start,c.utf8Size + place.stop⟩ := by
  obtain ⟨before,after,hsplit,rfl⟩ := h
  cases before with
  | nil => exact Or.inl ⟨after,hsplit.symm⟩
  | cons d before =>
    obtain ⟨rfl,rfl⟩ := List.cons.inj hsplit
    exact Or.inr ⟨_,⟨before,after,rfl,rfl⟩,by simp [byteLength,Nat.add_assoc]⟩

/-- What stands within the place of a text is part of this text. -/
theorem StandsAt.isInfix_of_within {inner : List Char} (h : StandsAt needle text span)
    (hinner : StandsWithin inner text span) : inner <:+: needle := by
  obtain ⟨before,after,hsplit,rfl⟩ := h
  obtain ⟨_,⟨before',after',hsplit',rfl⟩,hstart,hstop⟩ := hinner
  have hbefore : before <+: text := ⟨needle ++ after,by rw [hsplit,List.append_assoc]⟩
  have hbefore' : before' <+: text := ⟨inner ++ after',by rw [hsplit',List.append_assoc]⟩
  have hfront : before <+: before' := prefix_of_byteLength_le hbefore hbefore' hstart
  have hback : before' ++ inner <+: before ++ needle := by
    refine prefix_of_byteLength_le ⟨after',hsplit'.symm⟩ ⟨after,hsplit.symm⟩ ?_
    rwa [byteLength_append,byteLength_append]
  obtain ⟨between,rfl⟩ := hfront
  obtain ⟨rest,hrest⟩ := hback
  rw [List.append_assoc,List.append_assoc,List.append_cancel_left_eq] at hrest
  exact ⟨between,rest,by rw [← hrest,List.append_assoc]⟩

/-! ### Searching -/

theorem find?_eq_none_iff : find? needle text = none ↔ ¬ needle <:+: text := by
  induction text with
  | nil => simp [find?]
  | cons c text ih =>
    rw [find?,List.infix_cons_iff,← List.isPrefixOf_iff_prefix]
    by_cases hhere : needle.isPrefixOf (c :: text) = true
    · simp [hhere]
    · rw [if_neg hhere,Option.map_eq_none_iff,ih]
      simp [hhere]

theorem firstAt_of_find? {index : Nat} (h : find? needle text = some index) :
    FirstAt needle text ⟨index,index + byteLength needle⟩ := by
  induction text generalizing index with
  | nil =>
    rw [find?] at h
    split at h
    · rename_i hempty
      obtain rfl : 0 = index := Option.some.inj h
      have hneedle : needle = [] := List.isEmpty_iff.mp hempty
      exact ⟨⟨[],[],by simp [hneedle],by simp [byteLength]⟩,fun _ _ => Nat.zero_le _⟩
    · cases h
  | cons c text ih =>
    rw [find?] at h
    split at h
    · rename_i hhere
      obtain rfl : 0 = index := Option.some.inj h
      obtain ⟨after,hsplit⟩ := List.isPrefixOf_iff_prefix.mp hhere
      exact ⟨⟨[],after,hsplit.symm,by simp [byteLength]⟩,fun _ _ => Nat.zero_le _⟩
    · rename_i hhere
      obtain ⟨index,hindex,rfl⟩ := Option.map_eq_some_iff.mp h
      obtain ⟨hstands,hfirst⟩ := ih hindex
      refine ⟨?_,fun place hplace => ?_⟩
      · rw [Nat.add_assoc]
        exact hstands.cons c
      · rcases hplace.cons_cases with hprefix | ⟨place,hrest,rfl⟩
        · exact absurd (List.isPrefixOf_iff_prefix.mpr hprefix) hhere
        · exact Nat.add_le_add_left (hfirst place hrest) _

/-- The search finds the first place where a text stands. -/
theorem find?_eq_some_iff {index : Nat} : find? needle text = some index ↔
    FirstAt needle text ⟨index,index + byteLength needle⟩ := by
  refine ⟨firstAt_of_find?,fun ⟨hstands,hfirst⟩ => ?_⟩
  obtain ⟨found,hfound⟩ := Option.ne_none_iff_exists'.mp
    (mt find?_eq_none_iff.mp (not_not_intro hstands.isInfix))
  obtain ⟨hstands',hfirst'⟩ := firstAt_of_find? hfound
  have hle : index ≤ found := hfirst _ hstands'
  have hge : found ≤ index := hfirst' _ hstands
  rw [hfound,Nat.le_antisymm hge hle]

end Blueprint.Document
