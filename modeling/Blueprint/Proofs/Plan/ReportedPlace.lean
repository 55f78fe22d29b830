import Blueprint.Proofs.Plan.Located
import Mathlib.Data.List.Infix

/-!
The place that a report names in its header. The places of errors count bytes, and the header tells
the line and column of the character that has as many characters in front. So it is right about an
error as long as every character in front takes one byte, and behind any other it is late. An error
that ends too far behind the last character has no header at all.
-/

namespace Blueprint

open Document (Span byteLength byteLength_append)

/-! ### Characters and bytes -/

namespace Document

variable {text : List Char} {byte index index' : Nat}

theorem length_le_byteLength (text : List Char) : text.length ≤ byteLength text := by
  induction text with
  | nil => exact Nat.le_refl _
  | cons c text ih =>
    have hpos := c.utf8Size_pos
    simp only [byteLength,List.length_cons]
    omega

theorem byteLength_eq_length_iff : byteLength text = text.length ↔ ∀ c ∈ text, c.utf8Size = 1 := by
  induction text with
  | nil => simp [byteLength]
  | cons c text ih =>
    have hpos := c.utf8Size_pos
    have hle := length_le_byteLength text
    rw [List.forall_mem_cons,← ih,byteLength,List.length_cons]
    omega

theorem byteLength_le_of_prefix {front : List Char} (h : front <+: text) :
    byteLength front ≤ byteLength text := by
  obtain ⟨rest,rfl⟩ := h
  rw [byteLength_append]
  exact Nat.le_add_right _ _

/-- The character, by the number of those in front, that a byte of a text belongs to. Behind the last
byte is the end of the text, which has all characters in front. -/
def CharAt (text : List Char) (byte index : Nat) : Prop :=
  byteLength (text.take index) ≤ byte ∧
    (byte < byteLength (text.take (index + 1)) ∨ index = text.length ∧ byte = byteLength text)

instance : Decidable (CharAt text byte index) := inferInstanceAs (Decidable (_ ∧ _))

theorem exists_charAt (h : byte ≤ byteLength text) : ∃ index, CharAt text byte index := by
  induction text generalizing byte with
  | nil => exact ⟨0,Nat.zero_le _,Or.inr ⟨rfl,Nat.le_zero.mp h⟩⟩
  | cons c text ih =>
    rw [byteLength] at h
    by_cases hbyte : byte < c.utf8Size
    · exact ⟨0,Nat.zero_le _,Or.inl (by simpa [byteLength] using hbyte)⟩
    · have hrest : byte - c.utf8Size ≤ byteLength text := by omega
      obtain ⟨index,hstart,hend⟩ := ih hrest
      refine ⟨index + 1,?_,?_⟩
      all_goals simp only [List.take_succ_cons,byteLength,List.length_cons]
      all_goals omega

namespace CharAt

theorem le_length (h : CharAt text byte index) : index ≤ text.length := by
  rcases h with ⟨hstart,hend | ⟨hlast,_⟩⟩
  · by_contra hindex
    rw [List.take_of_length_le (by omega)] at hstart hend
    omega
  · exact Nat.le_of_eq hlast

theorem le_of (h : CharAt text byte index) (h' : CharAt text byte index') : index' ≤ index := by
  by_contra hlt
  have hmono : byteLength (text.take (index + 1)) ≤ byteLength (text.take index') :=
    byteLength_le_of_prefix (List.take_prefix_take_left (Nat.not_le.mp hlt))
  have hlength := h'.le_length
  rcases h.2 with hend | ⟨hlast,_⟩
  · have hstart := h'.1
    omega
  · omega

/-- A byte belongs to one character. -/
theorem unique (h : CharAt text byte index) (h' : CharAt text byte index') : index = index' :=
  Nat.le_antisymm (h'.le_of h) (h.le_of h')

theorem le_byteLength (h : CharAt text byte index) : byte ≤ byteLength text := by
  rcases h.2 with hend | ⟨_,hlast⟩
  · have hle := byteLength_le_of_prefix (List.take_prefix (index + 1) text)
    omega
  · exact Nat.le_of_eq hlast

/-- As many bytes as characters are in front of a byte exactly if each of them takes one byte. -/
theorem index_eq_iff (h : CharAt text byte index) :
    index = byte ↔ ∀ c ∈ text.take byte, c.utf8Size = 1 := by
  rw [← byteLength_eq_length_iff]
  constructor
  · rintro rfl
    refine Nat.le_antisymm ?_ (length_le_byteLength _)
    rw [List.length_take_of_le h.le_length]
    exact h.1
  · intro hplain
    have hbyte := h.le_byteLength
    refine h.unique ?_
    rcases Nat.lt_trichotomy byte text.length with hlt | rfl | hgt
    · have hend := length_le_byteLength (text.take (byte + 1))
      rw [List.length_take_of_le hlt] at hend
      rw [List.length_take_of_le (Nat.le_of_lt hlt)] at hplain
      exact ⟨Nat.le_of_eq hplain,Or.inl hend⟩
    · rw [List.take_length] at hplain
      exact ⟨by rw [List.take_length,hplain],Or.inr ⟨rfl,hplain.symm⟩⟩
    · rw [List.take_of_length_le (Nat.le_of_lt hgt)] at hplain
      omega

end CharAt

end Document

/-! ### Lines and columns -/

namespace Report

/-- The lines of a text with the characters that end them; an empty text is one empty line. -/
def fullLines (source : List Char) : List (List Char) :=
  if source.isEmpty then [[]] else Text.lines Text.atLineEnd source

theorem linesOf_eq (source : List Char) : linesOf source = numberLines 1 0 (fullLines source) := by
  unfold linesOf fullLines
  split <;> rfl

theorem flatten_fullLines (source : List Char) : (fullLines source).flatten = source := by
  unfold fullLines
  split
  · rename_i hempty
    rw [List.isEmpty_iff.mp hempty]
    rfl
  · exact Text.flatten_lines _ _

/-- A character, by the number of those in front, stands at a line and column, both counted from one.
The end of a text is behind the last character of its last line. -/
def PlaceOf (source : List Char) (index line column : Nat) : Prop :=
  ∃ front l back, fullLines source = front ++ l :: back ∧ line = front.length + 1 ∧ 1 ≤ column ∧
    index + 1 = front.flatten.length + column ∧
    (column ≤ l.length ∨ back = [] ∧ column = l.length + 1)

variable {source : List Char} {index index' line line' column column' : Nat}

namespace PlaceOf

theorem le_length (h : PlaceOf source index line column) : index ≤ source.length := by
  obtain ⟨front,l,back,hsplit,_,_,hindex,hcolumn⟩ := h
  have hlength := congrArg (List.length ∘ List.flatten) hsplit
  simp only [Function.comp_apply,flatten_fullLines,List.flatten_append,List.flatten_cons,
    List.length_append] at hlength
  omega

/-- What stands on a later line comes later. -/
theorem lt_of_line_lt (h : PlaceOf source index line column)
    (h' : PlaceOf source index' line' column') (hline : line < line') : index < index' := by
  obtain ⟨front,l,back,hsplit,rfl,_,hindex,hcolumn⟩ := h
  obtain ⟨front',l',back',hsplit',rfl,hone,hindex',_⟩ := h'
  have hfront : front ++ [l] <+: fullLines source :=
    ⟨back,by rw [hsplit,List.append_assoc,List.singleton_append]⟩
  have hfront' : front' <+: fullLines source := ⟨l' :: back',hsplit'.symm⟩
  obtain ⟨between,rfl⟩ := List.prefix_of_prefix_length_le hfront hfront' (by
    rw [List.length_append,List.length_singleton]
    omega)
  have hback : back ≠ [] := by
    rintro rfl
    have hlength := congrArg List.length (hsplit.symm.trans hsplit')
    simp only [List.length_append,List.length_cons,List.length_nil] at hlength
    omega
  simp only [hback,false_and,or_false] at hcolumn
  simp only [List.flatten_append,List.flatten_cons,List.flatten_nil,List.append_nil,
    List.length_append] at hindex'
  omega

/-- A character has one place. -/
theorem unique (h : PlaceOf source index line column) (h' : PlaceOf source index line' column') :
    line = line' ∧ column = column' := by
  have hline : line = line' := by
    rcases Nat.lt_trichotomy line line' with hlt | heq | hgt
    · exact absurd (h.lt_of_line_lt h' hlt) (Nat.lt_irrefl _)
    · exact heq
    · exact absurd (h'.lt_of_line_lt h hgt) (Nat.lt_irrefl _)
  obtain ⟨front,l,back,hsplit,rfl,_,hindex,_⟩ := h
  obtain ⟨front',l',back',hsplit',rfl,_,hindex',_⟩ := h'
  obtain ⟨rfl,_⟩ := List.append_inj (hsplit.symm.trans hsplit') (by omega)
  exact ⟨rfl,by omega⟩

/-- There is one character at a place. -/
theorem index_eq (h : PlaceOf source index line column) (h' : PlaceOf source index' line column) :
    index = index' := by
  obtain ⟨front,l,back,hsplit,rfl,_,hindex,_⟩ := h
  obtain ⟨front',l',back',hsplit',hline,_,hindex',_⟩ := h'
  obtain ⟨rfl,_⟩ := List.append_inj (hsplit.symm.trans hsplit') (by omega)
  omega

end PlaceOf

/-! ### The line of a character -/

theorem le_offset_of_mem_numberLines {number offset : Nat} {ls : List (List Char)} {l : Line}
    (h : l ∈ numberLines number offset ls) : offset ≤ l.offset := by
  induction ls generalizing number offset with
  | nil => cases h
  | cons _ ls ih =>
    rcases List.mem_cons.mp h with rfl | h
    · exact Nat.le_refl _
    · exact Nat.le_trans (Nat.le_add_right _ _) (ih h)

/-- The last line that begins at or before a place is the one that it is on. -/
theorem getLast?_filter_numberLines {ls : List (List Char)} (hne : ls ≠ [])
    (number : Nat) {offset place : Nat} (hstart : offset ≤ place)
    (hend : place ≤ offset + ls.flatten.length) :
    ∃ front l back, ls = front ++ l :: back ∧
      ((numberLines number offset ls).filter (·.offset ≤ place)).getLast? =
        some ⟨number + front.length,offset + front.flatten.length,l⟩ ∧
      offset + front.flatten.length ≤ place ∧
      (place < offset + front.flatten.length + l.length ∨
        back = [] ∧ place = offset + front.flatten.length + l.length) := by
  induction ls generalizing number offset with
  | nil => exact absurd rfl hne
  | cons l ls ih =>
    rw [List.flatten_cons,List.length_append] at hend
    rw [numberLines,List.filter_cons_of_pos (by simpa using hstart)]
    rcases Nat.lt_or_ge place (offset + l.length) with hlt | hge
    · -- All later lines begin behind the place.
      have hrest : (numberLines (number + 1) (offset + l.length) ls).filter
          (·.offset ≤ place) = [] := by
        refine List.filter_eq_nil_iff.mpr fun m hm => ?_
        have hle := le_offset_of_mem_numberLines hm
        simp only [decide_eq_true_eq]
        omega
      exact ⟨[],l,ls,rfl,by rw [hrest]; rfl,hstart,Or.inl hlt⟩
    · by_cases hls : ls = []
      · subst hls
        exact ⟨[],l,[],rfl,rfl,hstart,Or.inr ⟨rfl,Nat.le_antisymm hend hge⟩⟩
      · obtain ⟨front,l',back,hsplit,hlast,hle,hwithin⟩ :=
          ih hls (number + 1) hge (by omega)
        have hnumber : number + 1 + front.length = number + (l :: front).length := by
          rw [List.length_cons]
          omega
        have hoffset : offset + l.length + front.flatten.length =
            offset + (l :: front).flatten.length := by
          rw [List.flatten_cons,List.length_append]
          omega
        rw [hnumber,hoffset] at hlast
        rw [hoffset] at hle hwithin
        refine ⟨l :: front,l',back,by rw [hsplit,List.cons_append],?_,hle,hwithin⟩
        rw [List.getLast?_cons,hlast,Option.getD_some]

/-- The line in which a character is found has its place. -/
theorem placeOf_of_lineAt? {l : Line} (h : lineAt? source (linesOf source) index = some l) :
    PlaceOf source index l.number (index - l.offset + 1) := by
  have hindex : index ≤ source.length := isSome_lineAt?.mp (Option.isSome_of_eq_some h)
  have hne : fullLines source ≠ [] := by
    intro hnil
    have hflat := flatten_fullLines source
    rw [hnil] at hflat
    subst hflat
    cases hnil
  have hend : index ≤ 0 + (fullLines source).flatten.length := by
    rwa [flatten_fullLines,Nat.zero_add]
  obtain ⟨front,chars,back,hsplit,hlast,hle,hwithin⟩ :=
    getLast?_filter_numberLines hne 1 (Nat.zero_le index) hend
  rw [lineAt?,if_pos hindex,linesOf_eq,hlast] at h
  obtain rfl := Option.some.inj h
  refine ⟨front,chars,back,hsplit,Nat.add_comm _ _,Nat.le_add_left _ _,?_,?_⟩
  all_goals dsimp only
  · omega
  · exact hwithin.imp (by omega) fun ⟨hback,heq⟩ => ⟨hback,by omega⟩

theorem exists_placeOf (h : index ≤ source.length) :
    ∃ line column, PlaceOf source index line column := by
  obtain ⟨l,hl⟩ := Option.isSome_iff_exists.mp (isSome_lineAt?.mpr h)
  exact ⟨_,_,placeOf_of_lineAt? hl⟩

/-! ### Headers -/

/-- The row of a report that names a place. -/
def header (margin : Margin) (file : String) (line column : Nat) : List Char :=
  blanks (margin + 2) ++ ['╭','─','['] ++ file.toList ++ s!":{line}:{column}".toList ++ [']']

/-- A report names a place in its second row, behind the message. -/
def Names (report : List (List Char)) (file : String) (line column : Nat) : Prop :=
  ∃ margin, report[1]? = some (header margin file line column)

theorem colon_notMem_toDigits (n : Nat) : ':' ∉ Nat.toDigits 10 n := fun h =>
  absurd (Nat.isDigit_of_mem_toDigits (by decide) (by decide) h) (by decide)

theorem toDigits_inj {m n : Nat} (h : Nat.toDigits 10 m = Nat.toDigits 10 n) : m = n := by
  have hread := congrArg (Nat.ofDigitChars 10 · 0) h
  simpa only [Nat.ofDigitChars_toDigits (by decide : 1 < 10) (by decide)] using hread

/-- A header is of one place. -/
theorem header_inj {margin margin' : Margin} {file : String}
    (h : header margin file line column = header margin' file line' column') :
    line = line' ∧ column = column' := by
  -- Without the blanks in front both begin with the same frame and file.
  have hplace := congrArg (List.dropWhile (· = ' ')) h
  have hblank (m : Margin) : ∀ c ∈ blanks (m + 2), decide (c = ' ') = true := by
    intro c hc
    rw [List.eq_of_mem_replicate hc]
    rfl
  simp only [header,List.append_assoc,List.dropWhile_append_of_pos (hblank _)] at hplace
  have hdigits : Nat.toDigits 10 line ++ ':' :: (Nat.toDigits 10 column ++ [']']) =
      Nat.toDigits 10 line' ++ ':' :: (Nat.toDigits 10 column' ++ [']']) := by
    simpa [toString] using hplace
  have hcolumn : ':' ∉ Nat.toDigits 10 column ++ [']'] := by
    simp [colon_notMem_toDigits]
  obtain ⟨hline,_,hrest⟩ :=
    (List.append_cons_inj_of_notMem (colon_notMem_toDigits line) hcolumn).mp hdigits
  exact ⟨toDigits_inj hline,toDigits_inj (List.append_cancel_right hrest)⟩

variable {file message label : String} {span : Span}

/-- The line on which what a span covers ends. -/
def lastLine? (source : List Char) (span : Span) : Option Line :=
  if span.stop ≤ span.start then lineAt? source (linesOf source) span.start
  else lineAt? source (linesOf source) (span.stop - 1)

theorem isSome_lastLine? (h : span.start ≤ source.length) :
    (lastLine? source span).isSome ↔ span.stop ≤ span.start ∨ span.stop ≤ source.length + 1 := by
  unfold lastLine?
  split <;> rw [isSome_lineAt?] <;> omega

theorem getElem?_rows : (rows source file message label span)[1]? =
    match lineAt? source (linesOf source) span.start, lastLine? source span with
    | some first, some last => some (header (Decimal.digitChars last.number).length file
        first.number (span.start - first.offset + 1))
    | _, _ => none := by
  unfold rows
  dsimp only
  rw [← lastLine?]
  cases lineAt? source (linesOf source) span.start <;> cases lastLine? source span <;> rfl

/-- The place that a report names is that of the character with as many characters in front as its
span has bytes. -/
theorem names_iff : Names (rows source file message label span) file line column ↔
    (span.stop ≤ span.start ∨ span.stop ≤ source.length + 1) ∧
      PlaceOf source span.start line column := by
  rw [Names,getElem?_rows]
  constructor
  · rintro ⟨margin,hrow⟩
    split at hrow
    · rename_i first last hfirst hlast
      obtain ⟨rfl,rfl⟩ := header_inj (Option.some.inj hrow)
      have hplace := placeOf_of_lineAt? hfirst
      exact ⟨(isSome_lastLine? hplace.le_length).mp (Option.isSome_of_eq_some hlast),hplace⟩
    · cases hrow
  · rintro ⟨hstop,hplace⟩
    obtain ⟨first,hfirst⟩ := Option.isSome_iff_exists.mp (isSome_lineAt?.mpr hplace.le_length)
    obtain ⟨last,hlast⟩ :=
      Option.isSome_iff_exists.mp ((isSome_lastLine? hplace.le_length).mpr hstop)
    obtain ⟨rfl,rfl⟩ := hplace.unique (placeOf_of_lineAt? hfirst)
    rw [hfirst,hlast]
    exact ⟨_,rfl⟩

end Report

/-! ### Errors -/

open Document (CharAt)
open Report (Names PlaceOf rows)

/-- What the report on an error says about its place. -/
structure LoadError.PlaceTold (source : List Char) (file : String) (span : Span)
    (e : LoadError) : Prop where
  report : e.report source file = String.ofList
    ((rows source file e.message e.label span).flatMap (· ++ ['\n']))
  /-- The place that is named is found by counting characters instead of bytes. If the error ends
  more than one behind the last character, none is named. -/
  named : ∀ line column, Names (rows source file e.message e.label span) file line column ↔
    (span.stop ≤ span.start ∨ span.stop ≤ source.length + 1) ∧
      PlaceOf source span.start line column
  /-- The character that the error begins at, and its place. -/
  placed : span.start ≤ byteLength source →
    ∃ index line column, CharAt source span.start index ∧ PlaceOf source index line column
  /-- Where one is named, it is this one exactly if no character in front takes more than a byte. -/
  right : ∀ index line column, CharAt source span.start index → PlaceOf source index line column →
    (Names (rows source file e.message e.label span) file line column ↔
      (∀ c ∈ source.take span.start, c.utf8Size = 1) ∧
        (span.stop ≤ span.start ∨ span.stop ≤ source.length + 1))

theorem report_placeTold {source : List Char} {e : LoadError} {span : Span}
    (h : e.span? source = some span) (file : String) : e.PlaceTold source file span where
  report := by
    rw [LoadError.report,h]
  named _ _ := Report.names_iff
  placed hspan := by
    obtain ⟨index,hindex⟩ := Document.exists_charAt hspan
    obtain ⟨line,column,hplace⟩ := Report.exists_placeOf hindex.le_length
    exact ⟨index,line,column,hindex,hplace⟩
  right index line column hindex hplace := by
    rw [Report.names_iff,← hindex.index_eq_iff,and_comm]
    refine and_congr_left fun _ => ⟨fun hnamed => hplace.index_eq hnamed,?_⟩
    rintro rfl
    exact hplace

/-- A member without its colon, behind an accent. -/
def accentText : List Char := "\x7b\"\u00e9\" 1\x7d".toList

/-- The number that stands where the colon should has six bytes and five characters in front. -/
theorem report_placeTold_accent :
    (LoadError.json "expected `:`" ⟨1,7⟩).span? accentText = some ⟨6,7⟩ ∧
    (LoadError.json "expected `:`" ⟨1,7⟩).PlaceTold accentText "plan.json" ⟨6,7⟩ :=
  ⟨by decide,report_placeTold (by decide) "plan.json"⟩

/-- The report on this text names the brace behind the number. -/
theorem report_late_accent :
    Plan.decode .json accentText = .error (.json "expected `:`" ⟨1,7⟩) ∧
    (LoadError.json "expected `:`" ⟨1,7⟩).span? accentText = some ⟨6,7⟩ ∧
    CharAt accentText 6 5 ∧ PlaceOf accentText 5 1 6 ∧
    Names (rows accentText "plan.json" "JSON error at line 1, column 7: expected `:`" "expected `:`"
      ⟨6,7⟩) "plan.json" 1 7 ∧
    ¬ Names (rows accentText "plan.json" "JSON error at line 1, column 7: expected `:`" "expected `:`"
      ⟨6,7⟩) "plan.json" 1 6 := by
  have hnamed : Names (rows accentText "plan.json" "JSON error at line 1, column 7: expected `:`"
      "expected `:`" ⟨6,7⟩) "plan.json" 1 7 := ⟨1,by decide⟩
  refine ⟨Plan.eq_json_error_of (by decide +kernel),by decide,by decide,?_,hnamed,
    fun hother => ?_⟩
  · exact ⟨[],accentText,[],by decide,rfl,by decide,by decide,Or.inl (by decide)⟩
  · obtain ⟨_,hcolumn⟩ := (Report.names_iff.mp hnamed).2.unique (Report.names_iff.mp hother).2
    cases hcolumn

end Blueprint
