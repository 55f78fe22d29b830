import Blueprint.Proofs.Document.Position
import Blueprint.Report

/-!
Where a text that is no JSON is said to be wrong. The place of the error is found from its line and
column and shown in the text, but for an error at the end of a text that ends with a newline, or of
an empty one: that has no place, and is told without the text.
-/

namespace Blueprint

open Document (AtBlankEnd Position Span byteLength bytes positionOf)

namespace Report

/-- The first line stands at the beginning of the text. -/
theorem exists_offset_zero (source : List Char) : ∃ l ∈ linesOf source, l.offset = 0 := by
  unfold linesOf
  split
  · exact ⟨_,List.mem_singleton_self _,rfl⟩
  · rename_i hsource
    cases hlines : Text.lines Text.atLineEnd source with
    | nil =>
      have hflat := Text.flatten_lines Text.atLineEnd source
      rw [hlines] at hflat
      exact absurd (hflat ▸ rfl) hsource
    | cons l rest => exact ⟨_,List.mem_cons_self,rfl⟩

theorem isSome_lineAt? {source : List Char} {place : Nat} :
    (lineAt? source (linesOf source) place).isSome ↔ place ≤ source.length := by
  unfold lineAt?
  split
  · rename_i hplace
    obtain ⟨l,hl,hoffset⟩ := exists_offset_zero source
    have hmem : l ∈ (linesOf source).filter (·.offset ≤ place) :=
      List.mem_filter.mpr ⟨hl,by simp [hoffset]⟩
    have hlast := List.getLast?_isSome.mpr (List.ne_nil_of_mem hmem)
    simpa only [hplace,iff_true] using hlast
  · rename_i hplace
    simp [hplace]

/-- The text is shown unless the place is beyond its end, counted in characters. -/
theorem one_lt_length_rows {source : List Char} {file message label : String} {span : Span}
    (h : span.stop ≤ span.start + 1) :
    1 < (rows source file message label span).length ↔ span.start ≤ source.length := by
  unfold rows
  dsimp only
  split
  · rename_i first last hfirst _
    have hstart := isSome_lineAt?.mp (Option.isSome_of_eq_some hfirst)
    simp [excerpt,hstart]
  · rename_i hnone
    refine ⟨fun hlong => absurd hlong (by simp),fun hstart => ?_⟩
    obtain ⟨first,hfirst⟩ := Option.isSome_iff_exists.mp (isSome_lineAt?.mpr hstart)
    have hstop : span.stop - 1 ≤ source.length := by omega
    obtain ⟨last,hlast⟩ := Option.isSome_iff_exists.mp (isSome_lineAt?.mpr hstop)
    refine absurd ?_ (hnone first (if span.stop ≤ span.start then first else last) hfirst)
    split
    · exact hfirst
    · exact hlast

end Report

/-- What is said about an error at a byte of a text. -/
structure LoadError.Located (source : List Char) (file : String) (index : Nat)
    (e : LoadError) : Prop where
  /-- The line counts the newlines in front, the column the bytes behind the last of them. -/
  position : positionOf source index = ⟨1 + ((bytes source).take index).count 10,
    (((bytes source).take index).reverse.takeWhile (· ≠ 10)).length⟩
  /-- Only at a blank end there is no place. -/
  unplaced : e.span? source = none ↔ AtBlankEnd source index
  /-- The place is the byte in front, or the first one of the line. -/
  placed : ∀ span, e.span? source = some span →
    span.start = index - min 1 (positionOf source index).column ∧
    span.stop = min (span.start + 1) (byteLength source) ∧
    span.start ≤ span.stop ∧ span.stop ≤ byteLength source ∧
    (positionOf source span.start).line = (positionOf source index).line
  bare : AtBlankEnd source index → e.report source file = "Error: " ++ e.message
  /-- Elsewhere the text is shown, unless the place is beyond as many characters as there are. -/
  shown : ∀ span, e.span? source = some span →
    e.report source file = String.ofList
      ((Report.rows source file e.message e.label span).flatMap (· ++ ['\n'])) ∧
    (1 < (Report.rows source file e.message e.label span).length ↔ span.start ≤ source.length)

theorem span?_json {source : List Char} {message : String} {index : Nat}
    (h : index ≤ byteLength source) :
    (AtBlankEnd source index →
      (LoadError.json message (positionOf source index)).span? source = none) ∧
    (¬ AtBlankEnd source index →
      (LoadError.json message (positionOf source index)).span? source =
        some ⟨index - min 1 (positionOf source index).column,
          min (index - min 1 (positionOf source index).column + 1) (byteLength source)⟩) := by
  obtain ⟨hnone,hsome⟩ := Document.offset?_positionOf h
  refine ⟨fun hend => ?_,fun hend => ?_⟩
  · rw [LoadError.span?,hnone hend]
    rfl
  · rw [LoadError.span?,hsome hend]
    rfl

theorem json_located (source : List Char) (file message : String) {index : Nat}
    (h : index ≤ byteLength source) :
    LoadError.Located source file index (.json message (positionOf source index)) := by
  obtain ⟨hnone,hsome⟩ := @span?_json source message index h
  have hplaced {span : Span}
      (hspan : (LoadError.json message (positionOf source index)).span? source = some span) :
      ⟨index - min 1 (positionOf source index).column,
        min (index - min 1 (positionOf source index).column + 1) (byteLength source)⟩ = span := by
    have hend : ¬ AtBlankEnd source index := fun hend => by
      rw [hnone hend] at hspan
      cases hspan
    exact Option.some.inj ((hsome hend).symm.trans hspan)
  exact
    { position := Document.positionOf_eq source index
      unplaced := by
        refine ⟨fun hspan => Classical.byContradiction fun hend => ?_,hnone⟩
        rw [hsome hend] at hspan
        cases hspan
      placed := by
        intro span hspan
        obtain rfl := hplaced hspan
        refine ⟨rfl,rfl,?_,Nat.min_le_right _ _,Document.line_of_found source index⟩
        dsimp only
        omega
      bare := by
        intro hend
        rw [LoadError.report,hnone hend]
        simp [toString]
      shown := by
        intro span hspan
        obtain rfl := hplaced hspan
        rw [LoadError.report,hspan]
        exact ⟨rfl,Report.one_lt_length_rows (Nat.min_le_left _ _)⟩ }

/-- A member without its colon, behind a carriage return and an accent. -/
theorem json_located_accent :
    11 ≤ byteLength "\x7b\r\n  \"\u00e9\" 1".toList ∧
    (LoadError.json "expected `:`" (positionOf "\x7b\r\n  \"\u00e9\" 1".toList 11)).span?
      "\x7b\r\n  \"\u00e9\" 1".toList = some ⟨10,11⟩ ∧
    LoadError.Located "\x7b\r\n  \"\u00e9\" 1".toList "plan.json" 11
      (.json "expected `:`" (positionOf "\x7b\r\n  \"\u00e9\" 1".toList 11)) :=
  ⟨by decide,by decide,json_located _ _ _ (by decide)⟩

/-- An error is known without comparing plans, whose numbers are not compared. -/
theorem Plan.eq_json_error_of {x : Except LoadError (Plan Float)} {message : String} {p : Position}
    (h : (match x with
      | .error (.json message' p') => message' == message && p' == p
      | _ => false) = true) : x = .error (.json message p) := by
  split at h
  · obtain ⟨hmessage,hp⟩ := Bool.and_eq_true_iff.mp h
    rw [eq_of_beq hmessage,eq_of_beq hp]
  · cases h

/-- A document that breaks off behind a newline is rejected without a place. -/
theorem json_unplaced_openBrace :
    Plan.decode .json "\x7b\n".toList = .error (.json "EOF while parsing an object" ⟨2,0⟩) ∧
    2 ≤ byteLength "\x7b\n".toList ∧ positionOf "\x7b\n".toList 2 = ⟨2,0⟩ ∧
    (LoadError.json "EOF while parsing an object" ⟨2,0⟩).span? "\x7b\n".toList = none ∧
    (LoadError.json "EOF while parsing an object" ⟨2,0⟩).report "\x7b\n".toList "plan.json" =
      "Error: JSON error at line 2, column 0: EOF while parsing an object" :=
  ⟨Plan.eq_json_error_of (by decide +kernel),by decide,by decide,by decide,by decide +kernel⟩

end Blueprint
