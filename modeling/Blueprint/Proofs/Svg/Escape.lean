import Blueprint.Proofs.Json.Number
import Blueprint.Svg.Markup

/-!
Escaped text. Its ampersands start entities and nothing else in it steers a reader of markup; the
text that was escaped is found again. The texts of numbers need no escaping.
-/

namespace Blueprint.Svg

/-! ### Entities -/

/-- The entities that every reader of markup knows. -/
def entities : List (List Char) :=
  [['&','a','m','p',';'],['&','l','t',';'],['&','g','t',';'],['&','q','u','o','t',';'],
    ['&','a','p','o','s',';']]

def StartsEntity (text : List Char) : Prop := ∃ e ∈ entities, e <+: text

instance (text : List Char) : Decidable (StartsEntity text) :=
  inferInstanceAs (Decidable (∃ e ∈ entities, e <+: text))

theorem StartsEntity.append {text : List Char} (h : StartsEntity text) (rest : List Char) :
    StartsEntity (text ++ rest) := by
  obtain ⟨e,he,hstarts⟩ := h
  exact ⟨e,he,hstarts.trans (List.prefix_append text rest)⟩

/-- Unless the text goes on within an entity, it starts with one only where it does so by itself. -/
theorem StartsEntity.of_append {text rest : List Char} {c : Char}
    (hc : ∀ e ∈ entities, ¬ text ++ [c] <+: e) (h : StartsEntity (text ++ c :: rest)) :
    StartsEntity text := by
  obtain ⟨e,he,hstarts⟩ := h
  refine ⟨e,he,?_⟩
  by_cases hlen : e.length ≤ text.length
  · exact List.prefix_of_prefix_length_le hstarts (List.prefix_append text _) hlen
  · refine absurd (List.prefix_of_prefix_length_le ⟨rest,by simp⟩ hstarts ?_) (hc e he)
    simp only [List.length_append,List.length_singleton]
    omega

/-- No entity reaches over a character that is in none. -/
theorem StartsEntity.of_append_break {text rest : List Char} {c : Char}
    (hc : ∀ e ∈ entities, c ∉ e) (h : StartsEntity (text ++ c :: rest)) : StartsEntity text :=
  h.of_append fun e he hstarts => hc e he (hstarts.subset (by simp))

theorem StartsEntity.of_append_angle {text rest : List Char}
    (h : StartsEntity (text ++ '<' :: rest)) : StartsEntity text := h.of_append_break (by decide)

/-- An entity ends with its semicolon. -/
theorem StartsEntity.of_append_semicolon {text rest : List Char} {c : Char}
    (h : StartsEntity (text ++ ';' :: c :: rest)) : StartsEntity (text ++ [';']) := by
  have hlast : ∀ e ∈ entities, ';' ∉ e.dropLast := by decide
  have hsplit : text ++ ';' :: c :: rest = (text ++ [';']) ++ c :: rest := by simp
  rw [hsplit] at h
  refine h.of_append fun e he hstarts => hlast e he ?_
  have hstart : text ++ [';'] <+: e.dropLast := by
    obtain ⟨more,rfl⟩ := hstarts
    rw [List.append_assoc,List.dropLast_append_of_ne_nil (by simp)]
    exact List.prefix_append _ _
  exact hstart.subset (by simp)

/-- The text with its entities read. -/
def unescape : List Char → List Char
  | '&' :: 'a' :: 'm' :: 'p' :: ';' :: rest => '&' :: unescape rest
  | '&' :: 'l' :: 't' :: ';' :: rest => '<' :: unescape rest
  | '&' :: 'g' :: 't' :: ';' :: rest => '>' :: unescape rest
  | '&' :: 'q' :: 'u' :: 'o' :: 't' :: ';' :: rest => '"' :: unescape rest
  | '&' :: 'a' :: 'p' :: 'o' :: 's' :: ';' :: rest => '\'' :: unescape rest
  | c :: rest => c :: unescape rest
  | [] => []

theorem unescape_cons {c : Char} (h : c ≠ '&') (rest : List Char) :
    unescape (c :: rest) = c :: unescape rest := by
  conv_lhs => unfold unescape
  split <;> simp_all

theorem unescape_escapeChar (c : Char) (rest : List Char) :
    unescape (escapeChar c ++ rest) = c :: unescape rest := by
  unfold escapeChar
  split
  case h_6 hamp _ _ _ _ => exact unescape_cons (fun h => hamp h) rest
  all_goals simp [unescape]

theorem unescape_escape (text : List Char) : unescape (escape text) = text := by
  induction text with
  | nil => rfl
  | cons c text ih =>
    rw [escape,List.flatMap_cons,unescape_escapeChar]
    exact congrArg (c :: ·) ih

theorem escape_injective : Function.Injective escape :=
  Function.LeftInverse.injective unescape_escape

/-! ### Text that may stand between tags and in values -/

/-- Neither an angle nor a quote, and no ampersand but in front of an entity. -/
def Written : List Char → Prop
  | [] => True
  | c :: rest => (c ≠ '<' ∧ c ≠ '"' ∧ (c = '&' → StartsEntity (c :: rest))) ∧ Written rest

theorem Written.append {text rest : List Char} (h : Written text) (hrest : Written rest) :
    Written (text ++ rest) := by
  induction text with
  | nil => exact hrest
  | cons c text ih =>
    obtain ⟨⟨hangle,hquote,hentity⟩,h⟩ := h
    exact ⟨⟨hangle,hquote,fun hc => (hentity hc).append rest⟩,ih h⟩

/-- No angle, and no ampersand but in front of an entity. -/
def Inert : List Char → Prop
  | [] => True
  | c :: rest => (c ≠ '<' ∧ (c = '&' → StartsEntity (c :: rest))) ∧ Inert rest

theorem Written.inert {text : List Char} (h : Written text) : Inert text := by
  induction text with
  | nil => trivial
  | cons c text ih => exact ⟨⟨h.1.1,h.1.2.2⟩,ih h.2⟩

theorem written_escapeChar (c : Char) : Written (escapeChar c) := by
  unfold escapeChar
  split
  case h_6 hamp hangle _ hquote _ =>
    exact ⟨⟨fun h => hangle h,fun h => hquote h,fun h => absurd h hamp⟩,trivial⟩
  all_goals
    simp only [Written]
    decide

theorem written_escape (text : List Char) : Written (escape text) := by
  induction text with
  | nil => trivial
  | cons c text ih =>
    rw [escape,List.flatMap_cons]
    exact (written_escapeChar c).append ih

/-! ### Text without special characters -/

def isPlain (c : Char) : Bool := c != '<' && c != '>' && c != '"' && c != '&'

/-- The text may stand anywhere, inside of tags too. -/
def Plain (text : List Char) : Prop := ∀ c ∈ text, isPlain c = true

instance (text : List Char) : Decidable (Plain text) :=
  List.decidableBAll (fun c => isPlain c = true) text

@[simp] theorem plain_nil : Plain [] := fun _ h => absurd h List.not_mem_nil

@[simp] theorem plain_cons {c : Char} {text : List Char} :
    Plain (c :: text) ↔ isPlain c = true ∧ Plain text := List.forall_mem_cons

@[simp] theorem plain_append {text rest : List Char} :
    Plain (text ++ rest) ↔ Plain text ∧ Plain rest := List.forall_mem_append

/-- What holds of texts, and of those that are put together of such, holds of a list of them. -/
theorem intercalate_induction {P : List Char → Prop} (nil : P [])
    (append : ∀ {text rest}, P text → P rest → P (text ++ rest)) {separator : List Char}
    {texts : List (List Char)} (hs : P separator) (h : ∀ text ∈ texts, P text) :
    P (separator.intercalate texts) := by
  induction texts with
  | nil => exact nil
  | cons text texts ih =>
    obtain ⟨htext,h⟩ := List.forall_mem_cons.mp h
    cases texts with
    | nil => simpa using htext
    | cons next texts =>
      rw [List.intercalate_cons_cons]
      exact append (append htext hs) (ih h)

theorem plain_intercalate {separator : List Char} {texts : List (List Char)}
    (hs : Plain separator) (h : ∀ text ∈ texts, Plain text) :
    Plain (separator.intercalate texts) :=
  intercalate_induction plain_nil (fun htext hrest => plain_append.mpr ⟨htext,hrest⟩) hs h

theorem Plain.written {text : List Char} (h : Plain text) : Written text := by
  induction text with
  | nil => trivial
  | cons c text ih =>
    obtain ⟨hc,h⟩ := plain_cons.mp h
    simp only [isPlain,Bool.and_eq_true,bne_iff_ne] at hc
    exact ⟨⟨hc.1.1.1,hc.1.2,fun he => absurd he hc.2⟩,ih h⟩

theorem isPlain_of_isNumeric {c : Char} (h : Json.isNumeric c = true) : isPlain c = true := by
  simp only [isPlain,Bool.and_eq_true,bne_iff_ne]
  refine ⟨⟨⟨?_,?_⟩,?_⟩,?_⟩ <;>
    (rintro rfl; exact absurd h (by decide))

/-- Numbers in a drawing are written like those of documents, or tell that they are none. -/
theorem forall_mem_number (x : Float) :
    ∀ c ∈ number x, Json.isNumeric c = true ∨ c ∈ ['N','a','i','n','f'] := by
  have hsigned {text : List Char}
      (h : ∀ c ∈ text, Json.isNumeric c = true ∨ c ∈ ['N','a','i','n','f']) (negative : Bool) :
      ∀ c ∈ Decimal.signed negative text, Json.isNumeric c = true ∨ c ∈ ['N','a','i','n','f'] := by
    cases negative
    · exact h
    · exact List.forall_mem_cons.mpr ⟨Or.inl (by decide),h⟩
  unfold number Decimal.plainChars
  split
  · refine hsigned ?_ _
    split
    · exact fun c hc => Or.inl (List.mem_singleton.mp hc ▸ rfl)
    · exact fun c hc => Or.inl (Json.numeric_positional _ c hc)
  · rename_i hfinite
    cases hreading : Decimal.Reading.ofFloat x with
    | nan => simp [Decimal.notFinite]
    | infinite negative => exact @hsigned ['i','n','f'] (by simp) negative
    | finite d => exact absurd hreading (hfinite d)

@[simp] theorem plain_number (x : Float) : Plain (number x) := by
  have hletters : Plain ['N','a','i','n','f'] := by decide
  exact fun c hc => (forall_mem_number x c hc).elim isPlain_of_isNumeric (hletters c)

/-- Numbers end at a blank. -/
theorem blank_not_mem_number (x : Float) : ' ' ∉ number x := fun h =>
  absurd (forall_mem_number x ' ' h) (by decide)

end Blueprint.Svg
