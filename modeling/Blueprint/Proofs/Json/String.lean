import Blueprint.Json.Reader
import Blueprint.Json.Value

/-!
Strings of JSON texts. A string is read back from the text that writes it: every character that is
escaped comes back from its escape.
-/

namespace Blueprint.Json

open Document
open Text (hexValue? hexValue?_digitChar)

/-- A control character comes back from its code. -/
theorem hexCode?_control {c : Char} (h : c.toNat < 32) :
    hexCode? '0' '0' (hexDigit (c.toNat / 16)) (hexDigit (c.toNat % 16)) = some c.toNat := by
  have hhigh := (hexValue?_digitChar (n := c.toNat / 16) (by omega)).1
  have hlow := (hexValue?_digitChar (n := c.toNat % 16) (by omega)).1
  have hzero : hexValue? '0' = some 0 := rfl
  rw [hexCode?,hexDigit,hexDigit,hzero,hhigh,hlow]
  simp
  omega

/-- A character is read back from what is written for it. -/
theorem readString_escapeChar (c : Char) (rest : List Char) (i : Nat) (done : List Char) :
    ∃ j, readString (escapeChar c ++ rest) i done = readString rest j (c :: done) := by
  unfold escapeChar
  split
  case h_8 =>
    split
    · rename_i hcontrol
      have hcode := hexCode?_control hcontrol
      have htrailing : isTrailing c.toNat = false := by simp [isTrailing]; omega
      have hleading : isLeading c.toNat = false := by simp [isLeading]; omega
      refine ⟨i + 6,?_⟩
      rw [List.cons_append,List.cons_append,List.cons_append,List.cons_append,List.cons_append,
        List.cons_append,List.nil_append,readString,hcode]
      simp [htrailing,hleading]
    · rename_i hquote hbackslash _ _ _ _ _ hcontrol
      refine ⟨i + c.utf8Size,?_⟩
      rw [List.singleton_append,readString]
      · rw [if_neg hcontrol]
      all_goals simp_all
  all_goals exact ⟨i + 2,by simp [readString,simpleEscape?]⟩

/-- So are all characters of a string, up to its closing quote. -/
theorem readString_flatMap (cs rest : List Char) (i : Nat) (done : List Char) :
    ∃ j, readString (cs.flatMap escapeChar ++ '"' :: rest) i done =
      .ok (String.ofList (done.reverse ++ cs),⟨rest,j⟩) := by
  induction cs generalizing i done with
  | nil => exact ⟨i + 1,by simp [readString]⟩
  | cons c cs ih =>
    obtain ⟨j,hj⟩ := readString_escapeChar c (cs.flatMap escapeChar ++ '"' :: rest) i done
    obtain ⟨k,hk⟩ := ih j (c :: done)
    refine ⟨k,?_⟩
    rw [List.flatMap_cons,List.append_assoc,hj,hk]
    simp

/-- A string is read back at its opening quote. -/
theorem stringAt_stringChars (s : String) (rest : List Char) (i : Nat) :
    ∃ j, stringAt ⟨stringChars s.toList ++ rest,i⟩ = ⟨.ok s,.ok ⟨rest,j⟩⟩ := by
  obtain ⟨j,hj⟩ := readString_flatMap s.toList rest (i + '"'.utf8Size) []
  refine ⟨j,?_⟩
  have htext : stringChars s.toList ++ rest =
      '"' :: (s.toList.flatMap escapeChar ++ '"' :: rest) := by
    simp [stringChars]
  rw [htext]
  simp [stringAt,Cursor.advance,hj]

/-- The node of a string gives the string and the name that it is. -/
theorem stringNode_stringChars (s : String) (rest : List Char) (i : Nat) :
    ∃ place skip variantPlace j, stringNode ⟨stringChars s.toList ++ rest,i⟩ =
      (.string ⟨place,.named s variantPlace none,skip⟩ s,some ⟨rest,j⟩) := by
  obtain ⟨j,hj⟩ := stringAt_stringChars s rest i
  exact ⟨placeAt j,none,placeAt j,j,by rw [stringNode,hj]⟩

end Blueprint.Json
