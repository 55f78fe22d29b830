import Blueprint.Json.Reader
import Blueprint.Json.Value
import Mathlib.Data.List.TakeDrop

/-!
Numbers of JSON texts. What a number is read as depends on its own text only, and not on where it
stands or on the comma or bracket that ends it. Floats are written in the characters of numbers.
-/

namespace Blueprint.Json

open Document

/-- The text begins with nothing that could belong to a number. -/
def Delimited (rest : List Char) : Prop := ∀ c ∈ rest.head?, c = ',' ∨ c = ']' ∨ c = '\x7d'

/-- The outcome is a value, and reading goes on at a text. -/
def Outcome.Reads {β : Type} (o : Outcome β) (b : β) (rest : List Char) : Prop :=
  o.value = .ok b ∧ ∃ j, o.next = .ok ⟨rest,j⟩

theorem takeWhile_eq (cs : List Char) (i : Nat) (p : Char → Bool) : Cursor.takeWhile ⟨cs,i⟩ p =
    (cs.takeWhile p,⟨cs.dropWhile p,i + byteLength (cs.takeWhile p)⟩) := by
  rw [Cursor.takeWhile,List.span_eq_takeWhile_dropWhile]

section Delimited

variable {rest : List Char} (h : Delimited rest)
include h

theorem takeWhile_digits_append (cs : List Char) :
    (cs ++ rest).takeWhile Char.isDigit = cs.takeWhile Char.isDigit ∧
      (cs ++ rest).dropWhile Char.isDigit = cs.dropWhile Char.isDigit ++ rest := by
  have hrest : rest.takeWhile Char.isDigit = [] ∧ rest.dropWhile Char.isDigit = rest := by
    cases rest with
    | nil => exact ⟨rfl,rfl⟩
    | cons c rest =>
      have hc : c.isDigit = false := by
        rcases h c rfl with rfl | rfl | rfl <;> rfl
      simp [hc]
  induction cs with
  | nil => exact hrest
  | cons c cs ih => by_cases hc : c.isDigit = true <;> simp [hc,ih]

end Delimited

/-! ### The value of a number -/

theorem isSome_overflowsAt? (value i j : Nat) (ds : List Char) :
    (overflowsAt? value i ds).isSome = (overflowsAt? value j ds).isSome := by
  induction ds generalizing value i j with
  | nil => rfl
  | cons d ds ih =>
    rw [overflowsAt?,overflowsAt?]
    split
    · exact ih _ _ _
    · rfl

/-- Where a number ends and where its exponent begins matters to its faults only. -/
theorem toOption_value {negative hasFraction : Bool} {whole fraction : List Char}
    {exponent exponent' : Option (Bool × List Char × Nat)} {stop stop' : Nat}
    (h : exponent.map (fun e => (e.1,e.2.1)) = exponent'.map fun e => (e.1,e.2.1)) :
    (NumberParts.value ⟨negative,whole,fraction,hasFraction,exponent,stop⟩).toOption =
      (NumberParts.value ⟨negative,whole,fraction,hasFraction,exponent',stop'⟩).toOption := by
  unfold NumberParts.value
  dsimp only
  cases exponent with
  | none =>
    cases exponent' with
    | none =>
      dsimp only
      split
      · generalize scaleBy 4 _ _ = scaled
        cases scaled <;> rfl
      · rfl
    | some _ => cases h
  | some e =>
    cases exponent' with
    | none => cases h
    | some e' =>
      obtain ⟨down,ds,start⟩ := e
      obtain ⟨down',ds',start'⟩ := e'
      obtain ⟨rfl,rfl⟩ := Prod.mk.inj (Option.some.inj h)
      have hsame := isSome_overflowsAt? 0 start start' ds
      dsimp only
      cases hover : overflowsAt? 0 start ds with
      | none =>
        have hover' : overflowsAt? 0 start' ds = none := by simpa [hover] using hsame
        rw [hover']
        dsimp only
        generalize scaleBy 4 _ _ = scaled
        cases scaled <;> rfl
      | some i =>
        obtain ⟨i',hover'⟩ : ∃ i', overflowsAt? 0 start' ds = some i' :=
          Option.isSome_iff_exists.mp (by simpa [hover] using hsame.symm)
        rw [hover']
        dsimp only
        split <;> rfl

theorem eq_ok_of_toOption {ε β : Type} {x : Except ε β} {b : β} (h : x.toOption = some b) :
    x = .ok b := by
  cases x with
  | ok c => exact congrArg Except.ok (Option.some.inj h)
  | error e => cases h

theorem value_of_value {negative hasFraction : Bool} {whole fraction : List Char}
    {exponent exponent' : Option (Bool × List Char × Nat)} {stop : Nat} {n : Number}
    (h : NumberParts.value ⟨negative,whole,fraction,hasFraction,exponent,stop⟩ = .ok n)
    (he : exponent.map (fun e => (e.1,e.2.1)) = exponent'.map fun e => (e.1,e.2.1))
    (stop' : Nat) :
    NumberParts.value ⟨negative,whole,fraction,hasFraction,exponent',stop'⟩ = .ok n := by
  have hsame : (NumberParts.value ⟨negative,whole,fraction,hasFraction,exponent,stop⟩).toOption =
      (NumberParts.value ⟨negative,whole,fraction,hasFraction,exponent',stop'⟩).toOption :=
    toOption_value he
  rw [h] at hsame
  exact eq_ok_of_toOption hsame.symm

/-! ### Reading on -/

/-- Read the digits of an exponent behind its sign. -/
def readExponentDigits (negative : Bool) (whole fraction : List Char) (hasFraction down : Bool)
    (c : Cursor) : Outcome Number :=
  match c.rest with
  | [] => .fail (faultAt endInValue c.index) (faultAt invalidNumber c.index)
  | d :: _ =>
    if d.isDigit then
      let (ds,after) := c.takeWhile Char.isDigit
      ⟨NumberParts.value ⟨negative,whole,fraction,hasFraction,some (down,ds,c.index),after.index⟩,
        .ok after⟩
    else .fail (faultAt invalidNumber c.peeked) (faultAt invalidNumber c.peeked)

/-- Read a number behind its sign. -/
def readUnsigned (negative : Bool) (c : Cursor) : Outcome Number :=
  match c.rest with
  | [] => .fail (faultAt endInValue c.index) (faultAt invalidNumber c.index)
  | d :: _ =>
    let (ds,after) := c.takeWhile Char.isDigit
    if ds.isEmpty then .fail (faultAt invalidNumber c.peeked) (faultAt invalidNumber c.peeked)
    else if d = '0' && ds.length ≠ 1 then
      .fail (faultAt invalidNumber (c.index + 2)) (faultAt invalidNumber (c.index + 2))
    else readFraction negative ds after

/-- The sign of an exponent and what follows it. -/
def exponentSign : List Char → Bool × List Char
  | '+' :: r => (false,r)
  | '-' :: r => (true,r)
  | r => (false,r)

section Delimited

variable {rest : List Char} {negative hasFraction : Bool} {whole fraction : List Char} {n : Number}

theorem readExponent_e (negative hasFraction : Bool) (whole fraction : List Char) {e : Char}
    (he : e = 'e' ∨ e = 'E') (cs : List Char) (i : Nat) :
    ∃ j, readExponent negative whole fraction hasFraction ⟨e :: cs,i⟩ =
      readExponentDigits negative whole fraction hasFraction (exponentSign cs).1
        ⟨(exponentSign cs).2,j⟩ := by
  have he : (decide (e = 'e') || decide (e = 'E')) = true := by simpa using he
  unfold readExponent
  simp only [he,if_true,Cursor.advance]
  rcases cs with _ | ⟨c,cs⟩
  · exact ⟨_,rfl⟩
  · by_cases hplus : c = '+'
    · subst hplus
      exact ⟨_,rfl⟩
    · by_cases hminus : c = '-'
      · subst hminus
        exact ⟨_,rfl⟩
      · have hsign : exponentSign (c :: cs) = (false,c :: cs) := by
          unfold exponentSign
          split <;> simp_all
        rw [hsign]
        exact ⟨i + e.utf8Size,by simp [readExponentDigits,hplus,hminus]⟩

theorem readExponent_of_ne {e : Char} (he : ¬ (e = 'e' ∨ e = 'E')) (cs : List Char) (i : Nat) :
    readExponent negative whole fraction hasFraction ⟨e :: cs,i⟩ =
      ⟨NumberParts.value ⟨negative,whole,fraction,hasFraction,none,i⟩,.ok ⟨e :: cs,i⟩⟩ := by
  have he : (decide (e = 'e') || decide (e = 'E')) = false := by simpa using he
  simp [readExponent,he]

theorem readFraction_of_ne {r : List Char} (hr : ∀ s, r ≠ '.' :: s) (k : Nat) :
    readFraction negative whole ⟨r,k⟩ = readExponent negative whole [] false ⟨r,k⟩ := by
  cases r with
  | nil => rfl
  | cons c r =>
    have hc : c ≠ '.' := fun hc => hr r (by rw [hc])
    simp [readFraction]

theorem readNumber_minus (r : List Char) (k : Nat) :
    readNumber ⟨'-' :: r,k⟩ = readUnsigned true ⟨r,k + '-'.utf8Size⟩ := rfl

theorem readNumber_of_ne {r : List Char} (hr : ∀ s, r ≠ '-' :: s) (k : Nat) :
    readNumber ⟨r,k⟩ = readUnsigned false ⟨r,k⟩ := by
  cases r with
  | nil => rfl
  | cons c r =>
    have hc : c ≠ '-' := fun hc => hr r (by rw [hc])
    simp [readNumber,readUnsigned]

theorem exponentSign_append {cs : List Char} (h : cs ≠ []) (rest : List Char) :
    exponentSign (cs ++ rest) = ((exponentSign cs).1,(exponentSign cs).2 ++ rest) := by
  obtain ⟨c,cs,rfl⟩ := List.exists_cons_of_ne_nil h
  unfold exponentSign
  rw [List.cons_append]
  split <;> simp_all

variable (h : Delimited rest)
include h

theorem reads_exponentDigits {down : Bool} {cs : List Char} {i : Nat} (i' : Nat)
    (ho : (readExponentDigits negative whole fraction hasFraction down ⟨cs,i⟩).Reads n []) :
    (readExponentDigits negative whole fraction hasFraction down ⟨cs ++ rest,i'⟩).Reads n rest := by
  obtain ⟨hvalue,j,hnext⟩ := ho
  cases cs with
  | nil => cases hvalue
  | cons d cs =>
    obtain ⟨htake,hdrop⟩ := takeWhile_digits_append h (d :: cs)
    unfold readExponentDigits at hvalue hnext ⊢
    rw [List.cons_append] at htake hdrop ⊢
    dsimp only at hvalue hnext ⊢
    by_cases hd : d.isDigit = true
    · rw [if_pos hd,takeWhile_eq] at hvalue hnext ⊢
      rw [htake,hdrop]
      have hall : (d :: cs).dropWhile Char.isDigit = [] :=
        congrArg Cursor.rest (Except.ok.inj hnext)
      rw [hall]
      refine ⟨?_,_,rfl⟩
      dsimp only at hvalue ⊢
      exact value_of_value hvalue (by rfl) _
    · rw [if_neg hd] at hvalue
      cases hvalue

theorem reads_exponent {cs : List Char} {i : Nat} (i' : Nat)
    (ho : (readExponent negative whole fraction hasFraction ⟨cs,i⟩).Reads n []) :
    (readExponent negative whole fraction hasFraction ⟨cs ++ rest,i'⟩).Reads n rest := by
  cases cs with
  | nil =>
    have hvalue : NumberParts.value ⟨negative,whole,fraction,hasFraction,none,i⟩ = .ok n := ho.1
    have hfinish : readExponent negative whole fraction hasFraction ⟨rest,i'⟩ =
        ⟨NumberParts.value ⟨negative,whole,fraction,hasFraction,none,i'⟩,.ok ⟨rest,i'⟩⟩ := by
      cases rest with
      | nil => rfl
      | cons c rest => rcases h c rfl with rfl | rfl | rfl <;> rfl
    rw [List.nil_append,hfinish]
    exact ⟨value_of_value hvalue rfl _,_,rfl⟩
  | cons e cs =>
    by_cases he : e = 'e' ∨ e = 'E'
    · obtain ⟨j,hj⟩ := readExponent_e negative hasFraction whole fraction he cs i
      obtain ⟨j',hj'⟩ := readExponent_e negative hasFraction whole fraction he (cs ++ rest) i'
      rw [hj] at ho
      rw [List.cons_append,hj']
      cases cs with
      | nil => cases ho.1
      | cons c cs =>
        rw [exponentSign_append (List.cons_ne_nil c cs)]
        exact reads_exponentDigits h _ ho
    · obtain ⟨_,j,hnext⟩ := ho
      rw [readExponent_of_ne he] at hnext
      cases hnext

theorem reads_fraction {cs : List Char} {i : Nat} (i' : Nat)
    (ho : (readFraction negative whole ⟨cs,i⟩).Reads n []) :
    (readFraction negative whole ⟨cs ++ rest,i'⟩).Reads n rest := by
  by_cases hpoint : ∃ r, cs = '.' :: r
  · obtain ⟨r,rfl⟩ := hpoint
    obtain ⟨htake,hdrop⟩ := takeWhile_digits_append h r
    unfold readFraction at ho ⊢
    rw [List.cons_append]
    simp only [Cursor.advance,takeWhile_eq] at ho ⊢
    rw [htake,hdrop]
    split at ho
    · cases ho.1
    · rename_i hsome
      rw [if_neg hsome]
      exact reads_exponent h _ ho
  · rw [readFraction_of_ne fun s hs => hpoint ⟨s,hs⟩] at ho
    rw [readFraction_of_ne]
    · exact reads_exponent h _ ho
    · intro s hs
      cases cs with
      | nil => rcases h '.' (by rw [show rest = _ from hs]; rfl) with h | h | h <;> cases h
      | cons c cs => exact hpoint ⟨cs,by rw [(List.cons.inj hs).1]⟩

theorem reads_unsigned {cs : List Char} {i : Nat} (i' : Nat)
    (ho : (readUnsigned negative ⟨cs,i⟩).Reads n []) :
    (readUnsigned negative ⟨cs ++ rest,i'⟩).Reads n rest := by
  cases cs with
  | nil => cases ho.1
  | cons d cs =>
    obtain ⟨htake,hdrop⟩ := takeWhile_digits_append h (d :: cs)
    unfold readUnsigned at ho ⊢
    rw [List.cons_append] at htake hdrop ⊢
    simp only [takeWhile_eq] at ho ⊢
    rw [htake,hdrop]
    split at ho
    · cases ho.1
    · rename_i hsome
      rw [if_neg hsome]
      split at ho
      · cases ho.1
      · rename_i hzero
        rw [if_neg hzero]
        exact reads_fraction h _ ho

/-- A number that is the whole text is read alike where it is only a part. -/
theorem reads_number {cs : List Char} {i : Nat} (i' : Nat) (ho : (readNumber ⟨cs,i⟩).Reads n []) :
    (readNumber ⟨cs ++ rest,i'⟩).Reads n rest := by
  by_cases hsign : ∃ r, cs = '-' :: r
  · obtain ⟨r,rfl⟩ := hsign
    rw [readNumber_minus] at ho
    rw [List.cons_append,readNumber_minus]
    exact reads_unsigned h _ ho
  · rw [readNumber_of_ne fun s hs => hsign ⟨s,hs⟩] at ho
    rw [readNumber_of_ne]
    · exact reads_unsigned h _ ho
    · intro s hs
      cases cs with
      | nil => rcases h '-' (by rw [show rest = _ from hs]; rfl) with h | h | h <;> cases h
      | cons c cs => exact hsign ⟨cs,by rw [(List.cons.inj hs).1]⟩

end Delimited

/-- Where the outcome is a value, reading goes on at an end of the text. -/
def Outcome.Leaves {β : Type} (o : Outcome β) (text : List Char) : Prop :=
  ∀ b, o.value = .ok b → ∃ r j, o.next = .ok ⟨r,j⟩ ∧ r <:+ text

section Leaves

variable {negative hasFraction : Bool} {whole fraction : List Char}

theorem Outcome.Leaves.mono {β : Type} {o : Outcome β} {text text' : List Char} (h : o.Leaves text)
    (hsuffix : text <:+ text') : o.Leaves text' := by
  intro b hb
  obtain ⟨r,j,hnext,hr⟩ := h b hb
  exact ⟨r,j,hnext,hr.trans hsuffix⟩

theorem leaves_fail {β : Type} (f g : Fault) (text : List Char) :
    (Outcome.fail f g : Outcome β).Leaves text := fun _ h => by cases h

theorem leaves_exponentDigits (down : Bool) (cs : List Char) (i : Nat) :
    (readExponentDigits negative whole fraction hasFraction down ⟨cs,i⟩).Leaves cs := by
  unfold readExponentDigits
  split
  · exact leaves_fail _ _ _
  · split
    · intro n _
      rw [takeWhile_eq]
      exact ⟨_,_,rfl,List.dropWhile_suffix _⟩
    · exact leaves_fail _ _ _

theorem exponentSign_suffix (cs : List Char) : (exponentSign cs).2 <:+ cs := by
  unfold exponentSign
  split
  · exact List.suffix_cons _ _
  · exact List.suffix_cons _ _
  · exact List.suffix_rfl

theorem leaves_exponent (cs : List Char) (i : Nat) :
    (readExponent negative whole fraction hasFraction ⟨cs,i⟩).Leaves cs := by
  cases cs with
  | nil => exact fun _ _ => ⟨[],i,rfl,List.suffix_rfl⟩
  | cons e cs =>
    by_cases he : e = 'e' ∨ e = 'E'
    · obtain ⟨j,hj⟩ := readExponent_e negative hasFraction whole fraction he cs i
      rw [hj]
      exact (leaves_exponentDigits _ _ j).mono
        ((exponentSign_suffix cs).trans (List.suffix_cons e cs))
    · rw [readExponent_of_ne he]
      exact fun _ _ => ⟨_,_,rfl,List.suffix_rfl⟩

theorem leaves_fraction (cs : List Char) (i : Nat) :
    (readFraction negative whole ⟨cs,i⟩).Leaves cs := by
  by_cases hpoint : ∃ r, cs = '.' :: r
  · obtain ⟨r,rfl⟩ := hpoint
    unfold readFraction
    simp only [Cursor.advance,takeWhile_eq]
    split
    · exact leaves_fail _ _ _
    · exact (leaves_exponent _ _).mono
        ((List.dropWhile_suffix _).trans (List.suffix_cons '.' r))
  · rw [readFraction_of_ne fun s hs => hpoint ⟨s,hs⟩]
    exact leaves_exponent cs i

theorem leaves_unsigned (cs : List Char) (i : Nat) :
    (readUnsigned negative ⟨cs,i⟩).Leaves cs := by
  unfold readUnsigned
  split
  · exact leaves_fail _ _ _
  · simp only [takeWhile_eq]
    split
    · exact leaves_fail _ _ _
    · split
      · exact leaves_fail _ _ _
      · exact (leaves_fraction _ _).mono (List.dropWhile_suffix _)

theorem leaves_number (cs : List Char) (i : Nat) : (readNumber ⟨cs,i⟩).Leaves cs := by
  by_cases hsign : ∃ r, cs = '-' :: r
  · obtain ⟨r,rfl⟩ := hsign
    exact (leaves_unsigned r _).mono (List.suffix_cons '-' r)
  · rw [readNumber_of_ne fun s hs => hsign ⟨s,hs⟩]
    exact leaves_unsigned cs i

end Leaves

/-! ### Floats -/

/-- The characters that floats are written in. -/
def isNumeric (c : Char) : Bool := c.isDigit || c == '-' || c == '+' || c == '.' || c == 'e'

def Numeric (cs : List Char) : Prop := ∀ c ∈ cs, isNumeric c = true

@[simp] theorem numeric_nil : Numeric [] := fun _ h => absurd h List.not_mem_nil

@[simp] theorem numeric_cons {c : Char} {cs : List Char} :
    Numeric (c :: cs) ↔ isNumeric c = true ∧ Numeric cs := List.forall_mem_cons

@[simp] theorem numeric_append {cs ds : List Char} :
    Numeric (cs ++ ds) ↔ Numeric cs ∧ Numeric ds := List.forall_mem_append

@[simp] theorem numeric_digitChars (n : Nat) : Numeric (Decimal.digitChars n) := by
  intro c h
  have hdigit : c.isDigit = true := Nat.isDigit_of_mem_toDigits (by decide) (by decide) h
  simp [isNumeric,hdigit]

@[simp] theorem numeric_zeros (n : Nat) : Numeric (Decimal.zeros n) := by
  intro c h
  rw [(List.mem_replicate.mp h).2]
  rfl

theorem Numeric.point {ds : List Char} (h : Numeric ds) (places : Nat) :
    Numeric (Decimal.point ds places) := by
  have hpadded : Numeric (Decimal.zeros (places + 1 - ds.length) ++ ds) := by simp [h]
  unfold Decimal.point
  rw [numeric_append,numeric_cons]
  exact ⟨fun c hc => hpadded c (List.mem_of_mem_take hc),rfl,
    fun c hc => hpadded c (List.mem_of_mem_drop hc)⟩

theorem numeric_positional (s : Decimal.Scaled) : Numeric s.positional := by
  unfold Decimal.Scaled.positional
  split
  · simp
  · exact (numeric_digitChars s.digits).point _

theorem numeric_scientific (s : Decimal.Scaled) : Numeric s.scientific := by
  have hdigits := numeric_digitChars s.digits
  have hsign : isNumeric (if s.leading < 0 then '-' else '+') = true := by split <;> rfl
  have hpoint : isNumeric '.' = true := rfl
  refine numeric_append.mpr ⟨?_,numeric_cons.mpr ⟨rfl,numeric_cons.mpr
    ⟨hsign,numeric_digitChars _⟩⟩⟩
  split <;> simp_all

theorem numeric_chars (style : Decimal.NumberStyle) (d : Decimal.Dyadic) :
    Numeric (style.chars d) := by
  have hsigned {text : List Char} (h : Numeric text) (negative : Bool) :
      Numeric (Decimal.signed negative text) := by
    cases negative
    · exact h
    · exact numeric_cons.mpr ⟨rfl,h⟩
  refine hsigned ?_ d.negative
  split
  · simp [isNumeric]
  · dsimp only
    split
    · split
      · simp [numeric_positional,isNumeric]
      · exact numeric_positional _
    · exact numeric_scientific _

/-- A float is written in numeric characters, unless it is no finite number. -/
theorem numeric_floatChars {x : Float} (h : floatChars x ≠ nullChars) : Numeric (floatChars x) := by
  unfold floatChars at h ⊢
  split at h
  · exact numeric_chars _ _
  · exact absurd rfl h

/-! ### Floats that are carried -/

/-- What is written for the float is read as the same float. -/
def Carried (x : Float) : Prop := decode Node.asFloat (floatChars x) = .ok x

theorem skipSpace_cons {c : Char} (h : isSpace c = false) (cs : List Char) (i : Nat) :
    skipSpace ⟨c :: cs,i⟩ = ⟨c :: cs,i⟩ := by
  simp [skipSpace,Cursor.dropWhile,takeWhile_eq,h,byteLength]

theorem isSpace_of_isNumeric {c : Char} (h : isNumeric c = true) : isSpace c = false := by
  cases hspace : isSpace c with
  | false => rfl
  | true =>
    simp only [isSpace,Bool.or_eq_true,beq_iff_eq] at hspace
    rcases hspace with ((rfl | rfl) | rfl) | rfl <;> cases h

/-- A value that begins with a numeric character is a number, or there is no value. -/
theorem readValue_numeric {c : Char} (h : isNumeric c = true) (cs : List Char) (i fuel : Nat) :
    readValue (fuel + 1) ⟨c :: cs,i⟩ =
      if c = '-' || c.isDigit then numberAt ⟨c :: cs,i⟩
      else breakAt (faultAt expectedValue (Cursor.mk (c :: cs) i).peeked) := by
  rw [readValue,skipSpace_cons (isSpace_of_isNumeric h)]
  simp only [isNumeric,Bool.or_eq_true,beq_iff_eq] at h
  rcases h with (((hdigit | rfl) | rfl) | rfl) | rfl
  case inl.inl.inl.inl =>
    have hquote : c ≠ '"' := by rintro rfl; cases hdigit
    have hbracket : c ≠ '[' := by rintro rfl; cases hdigit
    have hbrace : c ≠ '\x7b' := by rintro rfl; cases hdigit
    simp [hquote,hbracket,hbrace,hdigit]
  all_goals rfl

/-- The float that a number stands for. -/
def Number.toFloat : Number → Float
  | int n => Float.ofInt n
  | float x => x

theorem numberAt_of_reads {n : Number} {cs rest : List Char} {i : Nat}
    (h : (readNumber ⟨cs,i⟩).Reads n rest) :
    ∃ node j, numberAt ⟨cs,i⟩ = (node,some ⟨rest,j⟩) ∧ node.asFloat = .ok n.toFloat := by
  obtain ⟨hvalue,j,hnext⟩ := h
  unfold numberAt
  simp only [hvalue,hnext]
  cases n with
  | int k => exact ⟨_,_,rfl,rfl⟩
  | float x => exact ⟨_,_,rfl,rfl⟩

theorem isNumeric_of_starts {c : Char} (h : (c = '-' || c.isDigit) = true) :
    isNumeric c = true := by
  rcases Bool.or_eq_true_iff.mp h with hc | hc
  · rw [decide_eq_true_iff.mp hc]
    rfl
  · simp [isNumeric,hc]

/-- A text that is a number is read as its float. -/
theorem decode_asFloat_of_reads {c : Char} {r : List Char} {n : Number}
    (hc : (c = '-' || c.isDigit) = true) (h : (readNumber ⟨c :: r,0⟩).Reads n []) :
    decode Node.asFloat (c :: r) = .ok n.toFloat := by
  obtain ⟨node,j,hnode,hfloat⟩ := numberAt_of_reads h
  have hread : read (c :: r) = ⟨node,none⟩ := by
    have hfuel : 3 * (c :: r).length + 3 = (3 * (c :: r).length + 2) + 1 := rfl
    unfold read Cursor.start
    rw [hfuel,readValue_numeric (isNumeric_of_starts hc),if_pos hc,hnode]
    rfl
  unfold decode
  simp only [hread,hfloat]
  rfl

/-- What a whole text of numeric characters is read as. -/
theorem decode_asFloat_numeric {cs : List Char} (hcs : Numeric cs) {x : Float}
    (h : decode Node.asFloat cs = .ok x) : ∃ c r n, cs = c :: r ∧ (c = '-' || c.isDigit) = true ∧
      (readNumber ⟨cs,0⟩).Reads n [] ∧ n.toFloat = x := by
  cases cs with
  | nil => cases h
  | cons c r =>
    have hfuel : 3 * (c :: r).length + 3 = (3 * (c :: r).length + 2) + 1 := rfl
    unfold decode read Cursor.start at h
    rw [hfuel,readValue_numeric (numeric_cons.mp hcs).1] at h
    by_cases hc : (c = '-' || c.isDigit) = true
    · rw [if_pos hc] at h
      cases hvalue : (readNumber ⟨c :: r,0⟩).value with
      | error f =>
        simp only [numberAt,hvalue] at h
        cases h
      | ok n =>
        obtain ⟨rest,j,hnext,hsuffix⟩ := leaves_number (c :: r) 0 n hvalue
        -- a numeric character left over would be told
        have hrest : rest = [] := by
          cases rest with
          | nil => rfl
          | cons d rest =>
            have hd := hcs d (hsuffix.subset List.mem_cons_self)
            obtain ⟨node,j',hnode,hfloat⟩ := numberAt_of_reads ⟨hvalue,j,hnext⟩
            rw [hnode] at h
            simp only [skipSpace_cons (isSpace_of_isNumeric hd),hfloat] at h
            cases h
        subst hrest
        obtain ⟨node,j',hnode,hfloat⟩ := numberAt_of_reads ⟨hvalue,j,hnext⟩
        rw [hnode] at h
        refine ⟨c,r,n,rfl,hc,⟨hvalue,j,hnext⟩,?_⟩
        simp only [hfloat] at h
        exact Except.ok.inj h
    · rw [if_neg hc] at h
      cases h

theorem numeric_of_carried {x : Float} (h : Carried x) : Numeric (floatChars x) := by
  refine numeric_floatChars fun hnull => ?_
  rw [Carried,hnull] at h
  cases h

theorem exists_head_of_carried {x : Float} (h : Carried x) :
    ∃ c r, floatChars x = c :: r ∧ isNumeric c = true ∧ (c = '-' || c.isDigit) = true := by
  obtain ⟨c,r,_,htext,hc,_⟩ := decode_asFloat_numeric (numeric_of_carried h) h
  have hnumeric := numeric_of_carried h
  rw [htext] at hnumeric
  exact ⟨c,r,htext,(numeric_cons.mp hnumeric).1,hc⟩

/-- A float that is carried is read at the beginning of any text that goes on behind it. -/
theorem readValue_of_carried {x : Float} (h : Carried x) {rest : List Char} (hrest : Delimited rest)
    (i fuel : Nat) : ∃ n j, readValue (fuel + 1) ⟨floatChars x ++ rest,i⟩ = (n,some ⟨rest,j⟩) ∧
      n.asFloat = .ok x := by
  obtain ⟨c,r,htext,hnumeric,hc⟩ := exists_head_of_carried h
  obtain ⟨_,_,n,_,_,hreads,rfl⟩ := decode_asFloat_numeric (numeric_of_carried h) h
  have hreads := reads_number hrest i hreads
  rw [htext] at hreads ⊢
  rw [List.cons_append,readValue_numeric hnumeric,if_pos hc]
  exact numberAt_of_reads hreads

end Blueprint.Json
