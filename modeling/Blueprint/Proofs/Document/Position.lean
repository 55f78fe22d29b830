import Blueprint.Document.Position

/-!
Lines and columns as they count bytes, and the places found from them. Every place in a text is found
again but one: the end of a text that ends with a newline, or of an empty one. Its line has nothing
in it, and no line of the text is cut off for it.
-/

namespace Blueprint.Document

/-! ### Bytes -/

/-- The bytes of a text in UTF-8. -/
def bytes (text : List Char) : List UInt8 := text.flatMap String.utf8EncodeChar

theorem bytes_append (text rest : List Char) : bytes (text ++ rest) = bytes text ++ bytes rest :=
  List.flatMap_append

theorem length_bytes (text : List Char) : (bytes text).length = byteLength text := by
  induction text with
  | nil => rfl
  | cons c text ih =>
    rw [byteLength,← ih,bytes,List.flatMap_cons,List.length_append,String.length_utf8EncodeChar]
    rfl

/-- The bytes of other characters are not the one of a newline. -/
theorem newline_notMem_utf8EncodeChar {c : Char} (h : c ≠ '\n') :
    10 ∉ String.utf8EncodeChar c := by
  have hval : c.val.toNat ≠ 10 := fun hc => h (Char.ext (UInt32.toNat_inj.mp hc))
  have hbyte {n : Nat} (hn : n % 256 ≠ 10) : (10 : UInt8) ≠ UInt8.ofNat n := by
    intro he
    exact hn (UInt8.toNat_ofNat' ▸ congrArg UInt8.toNat he.symm)
  unfold String.utf8EncodeChar
  dsimp only
  repeat' split
  all_goals
    simp only [List.mem_cons,List.not_mem_nil,or_false,not_or]
    repeat' apply And.intro
    all_goals exact hbyte (by omega)

theorem newline_notMem_bytes {text : List Char} (h : '\n' ∉ text) : 10 ∉ bytes text := by
  intro hmem
  obtain ⟨c,hc,hmem⟩ := List.mem_flatMap.mp hmem
  exact newline_notMem_utf8EncodeChar (fun he => h (he ▸ hc)) hmem

/-! ### Positions -/

namespace Position

/-- The position behind one more byte. -/
def next (p : Position) (b : UInt8) : Position :=
  if b = 10 then ⟨p.line + 1,0⟩ else ⟨p.line,p.column + 1⟩

variable {p : Position} {bs : List UInt8}

theorem foldl_next_of_notMem (h : 10 ∉ bs) :
    bs.foldl next p = ⟨p.line,p.column + bs.length⟩ := by
  induction bs generalizing p with
  | nil => rfl
  | cons b bs ih =>
    simp only [List.mem_cons,not_or] at h
    rw [List.foldl_cons,next,if_neg (Ne.symm h.1),ih h.2,List.length_cons,Nat.add_assoc,
      Nat.add_comm 1]

/-- The line in which counting starts does not matter to the columns. -/
theorem foldl_next_line (bs : List UInt8) (line column : Nat) :
    bs.foldl next ⟨line + 1,column⟩ =
      ⟨(bs.foldl next ⟨line,column⟩).line + 1,(bs.foldl next ⟨line,column⟩).column⟩ := by
  induction bs generalizing line column with
  | nil => rfl
  | cons b bs ih =>
    simp only [List.foldl_cons,next]
    split <;> exact ih _ _

theorem foldl_next (bs : List UInt8) : bs.foldl next ⟨1,0⟩ =
    ⟨1 + bs.count 10,(bs.reverse.takeWhile (· ≠ 10)).length⟩ := by
  rw [← List.reverse_reverse bs,List.foldl_reverse,List.count_reverse,List.reverse_reverse]
  induction bs.reverse with
  | nil => rfl
  | cons b rs ih =>
    rw [List.foldr_cons,ih,next]
    by_cases hb : b = 10
    · simp [hb,Nat.add_assoc]
    · simp [hb]

end Position

theorem positionOf_go (text : List Char) (index : Nat) (p : Position) :
    positionOf.go text index p = ((bytes text).take index).foldl Position.next p := by
  induction text generalizing index p with
  | nil => cases index <;> simp [positionOf.go,bytes]
  | cons c text ih =>
    have hbytes : bytes (c :: text) = String.utf8EncodeChar c ++ bytes text := List.flatMap_cons
    cases index with
    | zero => simp [positionOf.go]
    | succ index =>
      rw [positionOf.go,hbytes]
      split
      · rename_i hc
        subst hc
        have hnewline : String.utf8EncodeChar '\n' = [10] := by decide
        rw [ih,hnewline,List.singleton_append,List.take_succ_cons,List.foldl_cons]
        rfl
      · rename_i hc
        have hplain : 10 ∉ (String.utf8EncodeChar c).take (index + 1) := fun hmem =>
          newline_notMem_utf8EncodeChar hc (List.mem_of_mem_take hmem)
        dsimp only
        rw [ih,List.take_append,List.foldl_append,Position.foldl_next_of_notMem hplain,
          List.length_take,String.length_utf8EncodeChar,Nat.min_comm]
        have hrest : index + 1 - min (index + 1) c.utf8Size = index + 1 - c.utf8Size := by omega
        rw [hrest]

theorem positionOf_eq_foldl (text : List Char) (index : Nat) :
    positionOf text index = ((bytes text).take index).foldl Position.next ⟨1,0⟩ :=
  positionOf_go text index ⟨1,0⟩

/-- A position counts the newlines in front, and the bytes behind the last of them. -/
theorem positionOf_eq (text : List Char) (index : Nat) : positionOf text index =
    ⟨1 + ((bytes text).take index).count 10,
      (((bytes text).take index).reverse.takeWhile (· ≠ 10)).length⟩ := by
  rw [positionOf_eq_foldl,Position.foldl_next]

/-! ### Lines -/

/-- Every text is a line without a newline, or has a line with one in front. -/
theorem lines_induction {P : List Char → Prop} (last : ∀ text, '\n' ∉ text → P text)
    (line : ∀ body rest, '\n' ∉ body → P rest → P (body ++ '\n' :: rest)) (text : List Char) :
    P text := by
  -- The line that is being read grows at its end, so it is general in the induction.
  have hall : ∀ body, '\n' ∉ body → P (body ++ text) := by
    induction text with
    | nil => exact fun body hbody => last _ (by simpa using hbody)
    | cons c text ih =>
      intro body hbody
      by_cases hc : c = '\n'
      · exact hc ▸ line body text hbody (ih [] List.not_mem_nil)
      · have hnext := ih (body ++ [c]) (by simp [hbody,Ne.symm hc])
        rwa [List.append_assoc,List.singleton_append] at hnext
  exact hall [] List.not_mem_nil

theorem lines_of_notMem {text : List Char} (h : '\n' ∉ text) (hne : text ≠ []) :
    Text.lines Text.atNewline text = [text] := by
  induction text with
  | nil => exact absurd rfl hne
  | cons c text ih =>
    simp only [List.mem_cons,not_or] at h
    have hends : Text.atNewline c text.head? = false := by simpa [Text.atNewline] using Ne.symm h.1
    rw [Text.lines,hends]
    by_cases htext : text = []
    · simp [htext,Text.lines]
    · simp [ih h.2 htext]

theorem lines_append_newline {body : List Char} (h : '\n' ∉ body) (rest : List Char) :
    Text.lines Text.atNewline (body ++ '\n' :: rest) =
      (body ++ ['\n']) :: Text.lines Text.atNewline rest := by
  induction body with
  | nil => rfl
  | cons c body ih =>
    simp only [List.mem_cons,not_or] at h
    have hends : Text.atNewline c (body ++ '\n' :: rest).head? = false := by
      simpa [Text.atNewline] using Ne.symm h.1
    rw [List.cons_append,Text.lines,hends,ih h.2]
    rfl

section Line

variable {body rest : List Char} {index : Nat}

theorem positionOf_of_notMem (h : '\n' ∉ body) (hindex : index ≤ byteLength body)
    (rest : List Char) : positionOf (body ++ rest) index = ⟨1,index⟩ := by
  have hlength := length_bytes body
  rw [positionOf_eq_foldl,bytes_append,List.take_append_of_le_length (by omega),
    Position.foldl_next_of_notMem fun hmem => newline_notMem_bytes h (List.mem_of_mem_take hmem)]
  simp
  omega

theorem positionOf_append_newline (h : '\n' ∉ body) (rest : List Char) (index : Nat) :
    positionOf (body ++ '\n' :: rest) (byteLength body + 1 + index) =
      ⟨(positionOf rest index).line + 1,(positionOf rest index).column⟩ := by
  have hbytes : bytes (body ++ '\n' :: rest) = bytes body ++ 10 :: bytes rest := by
    rw [bytes_append]
    rfl
  have htake : (bytes body ++ 10 :: bytes rest).take (byteLength body + 1 + index) =
      bytes body ++ 10 :: (bytes rest).take index := by
    rw [← length_bytes,Nat.add_assoc,List.take_length_add_append,Nat.add_comm 1,
      List.take_succ_cons]
  rw [positionOf_eq_foldl,positionOf_eq_foldl rest,hbytes,htake,List.foldl_append,
    Position.foldl_next_of_notMem (newline_notMem_bytes h),List.foldl_cons]
  exact Position.foldl_next_line _ 1 0

end Line

/-! ### Places found from positions -/

variable {text : List Char} {index : Nat}

theorem column_le (text : List Char) (index : Nat) : (positionOf text index).column ≤ index := by
  rw [positionOf_eq]
  calc (((bytes text).take index).reverse.takeWhile (· ≠ 10)).length
      ≤ ((bytes text).take index).reverse.length := (List.takeWhile_prefix _).length_le
    _ ≤ index := by rw [List.length_reverse]; exact List.length_take_le _ _

theorem one_le_line (text : List Char) (index : Nat) : 1 ≤ (positionOf text index).line := by
  rw [positionOf_eq]
  exact Nat.le_add_right 1 _

/-- Nothing stands on the line of the place: it is the end of the text, behind a newline or of an
empty text. -/
def AtBlankEnd (text : List Char) (index : Nat) : Prop :=
  index = byteLength text ∧ (text = [] ∨ text.getLast? = some '\n')

theorem byteLength_append_newline (body rest : List Char) :
    byteLength (body ++ '\n' :: rest) = byteLength body + 1 + byteLength rest := by
  have hnewline : ('\n' : Char).utf8Size = 1 := by decide
  rw [byteLength_append,byteLength,hnewline,Nat.add_assoc]

theorem atBlankEnd_append_newline (body rest : List Char) (index : Nat) :
    AtBlankEnd (body ++ '\n' :: rest) (byteLength body + 1 + index) ↔ AtBlankEnd rest index := by
  have hlast : (body ++ '\n' :: rest = [] ∨ (body ++ '\n' :: rest).getLast? = some '\n') ↔
      (rest = [] ∨ rest.getLast? = some '\n') := by
    cases rest <;> simp [List.getLast?_append]
  rw [AtBlankEnd,AtBlankEnd,byteLength_append_newline,hlast,Nat.add_left_cancel_iff]

/-- The byte in front of a place is found again, where there is one on its line. -/
theorem offset?_positionOf (h : index ≤ byteLength text) :
    (AtBlankEnd text index → (positionOf text index).offset? text = none) ∧
      (¬ AtBlankEnd text index → (positionOf text index).offset? text =
        some (index - min 1 (positionOf text index).column)) := by
  induction text using lines_induction generalizing index with
  | last text htext =>
    have hposition := positionOf_of_notMem htext h []
    rw [List.append_nil] at hposition
    rw [hposition,Position.offset?]
    by_cases hne : text = []
    · subst hne
      refine ⟨fun _ => rfl,fun hend => absurd ⟨Nat.le_zero.mp h,Or.inl rfl⟩ hend⟩
    · have hoffset : offsetIn? (Text.lines Text.atNewline text) 1 index =
          some (index - min 1 index) := by
        rw [lines_of_notMem htext hne,offsetIn?]
        congr 1
        omega
      refine ⟨fun hend => ?_,fun _ => hoffset⟩
      exact absurd (List.mem_of_getLast? (hend.2.resolve_left hne)) htext
  | line body rest hbody ih =>
    have hlength : byteLength (body ++ ['\n']) = byteLength body + 1 :=
      byteLength_append_newline body []
    have hlines := lines_append_newline hbody rest
    by_cases hindex : index ≤ byteLength body
    · have hposition := positionOf_of_notMem hbody hindex ('\n' :: rest)
      have hinside : ¬ AtBlankEnd (body ++ '\n' :: rest) index := by
        rintro ⟨hend,_⟩
        rw [byteLength_append_newline] at hend
        omega
      refine ⟨fun hend => absurd hend hinside,fun _ => ?_⟩
      rw [hposition,Position.offset?,hlines,offsetIn?,hlength]
      refine congrArg some ?_
      dsimp only
      omega
    · -- Behind the first line, everything is as in the text that begins there.
      obtain ⟨index',rfl⟩ : ∃ index', index = byteLength body + 1 + index' :=
        ⟨index - (byteLength body + 1),by omega⟩
      have hindex' : index' ≤ byteLength rest := by
        rw [byteLength_append_newline] at h
        omega
      have hcolumn := column_le rest index'
      obtain ⟨line,hline⟩ : ∃ line, (positionOf rest index').line = line + 1 :=
        ⟨(positionOf rest index').line - 1,by have := one_le_line rest index'; omega⟩
      have hoffset : (positionOf (body ++ '\n' :: rest) (byteLength body + 1 + index')).offset?
          (body ++ '\n' :: rest) =
            ((positionOf rest index').offset? rest).map (byteLength body + 1 + ·) := by
        rw [positionOf_append_newline hbody,Position.offset?,Position.offset?,hlines,hline,
          offsetIn?,hlength]
      obtain ⟨hnone,hsome⟩ := ih hindex'
      rw [atBlankEnd_append_newline,hoffset,positionOf_append_newline hbody]
      refine ⟨fun hend => by rw [hnone hend]; rfl,fun hend => ?_⟩
      rw [hsome hend,Option.map_some]
      refine congrArg some ?_
      dsimp only
      omega

theorem line_of_pred (h : 1 ≤ (positionOf text (index + 1)).column) :
    (positionOf text index).line = (positionOf text (index + 1)).line := by
  rw [positionOf_eq_foldl,List.take_add_one] at h
  rw [positionOf_eq_foldl,positionOf_eq_foldl _ (index + 1),List.take_add_one]
  cases hbyte : (bytes text)[index]? with
  | none => simp
  | some b =>
    rw [hbyte] at h
    simp only [Option.toList_some,List.foldl_append,List.foldl_cons,List.foldl_nil,
      Position.next] at h ⊢
    by_cases hb : b = 10
    · rw [if_pos hb] at h
      exact absurd h (Nat.not_succ_le_zero 0)
    · rw [if_neg hb]

/-- The byte in front of a place is on its line, unless the line begins there. -/
theorem line_of_found (text : List Char) (index : Nat) :
    (positionOf text (index - min 1 (positionOf text index).column)).line =
      (positionOf text index).line := by
  by_cases hcolumn : (positionOf text index).column = 0
  · rw [hcolumn,Nat.min_zero,Nat.sub_zero]
  · have hle := column_le text index
    obtain ⟨index,rfl⟩ : ∃ k, index = k + 1 := ⟨index - 1,by omega⟩
    have hpred : index + 1 - min 1 (positionOf text (index + 1)).column = index := by omega
    rw [hpred]
    exact line_of_pred (by omega)

end Blueprint.Document
