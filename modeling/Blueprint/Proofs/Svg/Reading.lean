import Blueprint.Proofs.Svg.Escape

/-!
A reader of markup. It knows nothing of drawings: an angle begins a tag, quotes inside of a tag hold
a value, and everything else is text. It takes no text in which an angle stands inside of a tag, or
an ampersand elsewhere than in front of an entity.
-/

namespace Blueprint.Svg

/-- What a reader finds: a tag, or a character between tags. -/
inductive Item where
  /-- Every value with what stands in front of it, and what follows the last value. -/
  | tag (fields : List (List Char × List Char)) (last : List Char)
  | char (c : Char)
  deriving DecidableEq, Repr

/-- How far a reader is, and what it holds of the tag that it is in. -/
inductive Place where
  | outside
  | inside (fields : List (List Char × List Char)) (last : List Char)
  | quoted (fields : List (List Char × List Char)) (name value : List Char)

/-- The values of a tag, as they are written. -/
def Item.values : Item → List (List Char)
  | tag fields _ => fields.map (·.2)
  | char _ => []

/-- The values met so far of the tag that the reader is in. -/
def Place.values : Place → List (List Char)
  | outside => []
  | inside fields _ => fields.map (·.2)
  | quoted fields _ value => fields.map (·.2) ++ [value]

def read : Place → List Char → Option (List Item)
  | .outside, [] => some []
  | .outside, c :: rest =>
    if c = '<' then read (.inside [] []) rest
    else if c = '&' ∧ ¬ StartsEntity (c :: rest) then none
    else (read .outside rest).map (.char c :: ·)
  | .inside fields last, c :: rest =>
    if c = '>' then (read .outside rest).map (.tag fields last :: ·)
    else if c = '"' then read (.quoted fields last []) rest
    else if c = '<' ∨ c = '&' then none
    else read (.inside fields (last ++ [c])) rest
  | .quoted fields name value, c :: rest =>
    if c = '"' then read (.inside (fields ++ [(name,value)]) []) rest
    else if c = '<' ∨ (c = '&' ∧ ¬ StartsEntity (c :: rest)) then none
    else read (.quoted fields name (value ++ [c])) rest
  | .inside _ _, [] => none
  | .quoted _ _ _, [] => none

/-! ### What was read -/

theorem startsEntity_of_read {text : List Char} {p : Place} {items : List Item}
    (h : read p text = some items) {before after : List Char} (ht : text = before ++ '&' :: after) :
    StartsEntity ('&' :: after) := by
  induction text generalizing p items before with
  | nil => simp at ht
  | cons c text ih =>
    cases before with
    | nil =>
      obtain ⟨rfl,rfl⟩ := List.cons.inj ht
      by_contra hno
      cases p <;> simp [read,hno] at h
    | cons b before =>
      obtain ⟨rfl,rfl⟩ := List.cons.inj ht
      cases p <;> simp only [read] at h <;> split_ifs at h
      all_goals first
        | exact ih h rfl
        | (obtain ⟨_,h,_⟩ := Option.map_eq_some_iff.mp h
           exact ih h rfl)

/-- A tag that was begun is read to its end. -/
theorem exists_tag_of_read {text : List Char} {p : Place} {items : List Item}
    (h : read p text = some items) (hp : p ≠ .outside) :
    ∃ fields last rest, items = .tag fields last :: rest := by
  induction text generalizing p items with
  | nil => cases p <;> simp_all [read]
  | cons c text ih =>
    cases p with
    | outside => exact absurd rfl hp
    | inside fields last =>
      simp only [read] at h
      split_ifs at h
      · obtain ⟨rest,_,rfl⟩ := Option.map_eq_some_iff.mp h
        exact ⟨fields,last,rest,rfl⟩
      all_goals exact ih h (by simp)
    | quoted fields name value =>
      simp only [read] at h
      split_ifs at h
      all_goals exact ih h (by simp)

/-- Every angle starts a tag: what stands in front of it is read by itself, up to there. -/
theorem exists_tag_of_angle {text : List Char} {p : Place} {items : List Item}
    (h : read p text = some items) {before after : List Char} (ht : text = before ++ '<' :: after) :
    ∃ done fields last rest, read p before = some done ∧
      items = done ++ .tag fields last :: rest := by
  induction text generalizing p items before with
  | nil => simp at ht
  | cons c text ih =>
    cases before with
    | nil =>
      obtain ⟨rfl,rfl⟩ := List.cons.inj ht
      cases p with
      | outside =>
        obtain ⟨fields,last,rest,rfl⟩ := exists_tag_of_read (by simpa [read] using h) (by simp)
        exact ⟨[],fields,last,rest,rfl,rfl⟩
      | inside => simp [read] at h
      | quoted => simp [read] at h
    | cons b before =>
      rw [List.cons_append,List.cons.injEq] at ht
      obtain ⟨rfl,rfl⟩ := ht
      have hentity : ¬ (c = '&' ∧ ¬ StartsEntity (c :: (before ++ '<' :: after))) →
          ¬ (c = '&' ∧ ¬ StartsEntity (c :: before)) := by
        rintro hs ⟨hc,hno⟩
        exact hs ⟨hc,fun hlong => hno hlong.of_append_angle⟩
      cases p with
      | outside =>
        simp only [read] at h ⊢
        split_ifs at h with hangle hamp
        · rw [if_pos hangle]
          exact ih h rfl
        · obtain ⟨rest,hrest,rfl⟩ := Option.map_eq_some_iff.mp h
          obtain ⟨done,fields,last,rest,hdone,rfl⟩ := ih hrest rfl
          rw [if_neg hangle,if_neg (hentity hamp),hdone]
          exact ⟨.char c :: done,fields,last,rest,rfl,rfl⟩
      | inside fields last =>
        simp only [read] at h ⊢
        split_ifs at h ⊢
        · obtain ⟨rest,hrest,rfl⟩ := Option.map_eq_some_iff.mp h
          obtain ⟨done,fields',last',rest,hdone,rfl⟩ := ih hrest rfl
          rw [hdone]
          exact ⟨.tag fields last :: done,fields',last',rest,rfl,rfl⟩
        · exact ih h rfl
        · exact ih h rfl
      | quoted fields name value =>
        simp only [read] at h ⊢
        split_ifs at h with hquote hbad
        · rw [if_pos hquote]
          exact ih h rfl
        · have hgood : ¬ (c = '<' ∨ (c = '&' ∧ ¬ StartsEntity (c :: before))) := by
            rintro (hc | hc)
            · exact hbad (Or.inl hc)
            · exact hentity (fun hlong => hbad (Or.inr hlong)) hc
          rw [if_neg hquote,if_neg hgood]
          exact ih h rfl

theorem not_mem_values_of_read {text : List Char} {p : Place} {items : List Item}
    (h : read p text = some items) (hp : ∀ value ∈ p.values, '"' ∉ value ∧ '<' ∉ value) :
    ∀ item ∈ items, ∀ value ∈ item.values, '"' ∉ value ∧ '<' ∉ value := by
  induction text generalizing p items with
  | nil =>
    cases p with
    | outside =>
      obtain rfl : [] = items := Option.some.inj h
      simp
    | _ => cases h
  | cons c text ih =>
    cases p with
    | outside =>
      simp only [read] at h
      split_ifs at h
      · exact ih h (by simp [Place.values])
      · obtain ⟨rest,hrest,rfl⟩ := Option.map_eq_some_iff.mp h
        exact List.forall_mem_cons.mpr ⟨by simp [Item.values],ih hrest (by simp [Place.values])⟩
    | inside fields last =>
      simp only [read] at h
      split_ifs at h with _ hquote
      · obtain ⟨rest,hrest,rfl⟩ := Option.map_eq_some_iff.mp h
        exact List.forall_mem_cons.mpr ⟨hp,ih hrest (by simp [Place.values])⟩
      · refine ih h fun value hvalue => ?_
        rcases List.mem_append.mp hvalue with hvalue | hvalue
        · exact hp value hvalue
        · simp [List.mem_singleton.mp hvalue]
      · exact ih h hp
    | quoted fields name value =>
      simp only [read] at h
      split_ifs at h with hquote hbad
      · exact ih h (by simpa [Place.values] using hp)
      · refine ih h fun value' hvalue => ?_
        rcases List.mem_append.mp hvalue with hvalue | hvalue
        · exact hp value' (List.mem_append_left _ hvalue)
        · obtain rfl := List.mem_singleton.mp hvalue
          obtain ⟨hnq,hna⟩ := hp value (by simp [Place.values])
          have hangle : c ≠ '<' := fun hc => hbad (Or.inl hc)
          simp [hnq,hna,Ne.symm hquote,hangle.symm]

/-! ### Reading on -/

/-- Between tags, the text is read as these items, whatever follows. -/
def Reads (text : List Char) (items : List Item) : Prop :=
  ∀ rest, read .outside (text ++ rest) = (read .outside rest).map (items ++ ·)

theorem Reads.read {text : List Char} {items : List Item} (h : Reads text items) :
    Svg.read .outside text = some items := by
  simpa [Svg.read] using h []

theorem reads_nil : Reads [] [] := by
  intro rest
  simp

theorem Reads.append {text text' : List Char} {items items' : List Item} (h : Reads text items)
    (h' : Reads text' items') : Reads (text ++ text') (items ++ items') := by
  intro rest
  rw [List.append_assoc,h,h',Option.map_map]
  simp [Function.comp_def]

theorem reads_inert {text : List Char} (h : Inert text) : Reads text (text.map .char) := by
  induction text with
  | nil => exact reads_nil
  | cons c text ih =>
    obtain ⟨⟨hangle,hentity⟩,h⟩ := h
    intro rest
    have hamp : ¬ (c = '&' ∧ ¬ StartsEntity (c :: (text ++ rest))) := by
      rintro ⟨hc,hno⟩
      exact hno ((hentity hc).append rest)
    rw [List.cons_append,Svg.read,if_neg hangle,if_neg hamp,ih h,Option.map_map]
    simp [Function.comp_def]

theorem reads_words {text : List Char} (h : Written text) : Reads text (text.map .char) :=
  reads_inert h.inert

section Tag

variable {fields : List (List Char × List Char)} {last rest : List Char}

theorem read_plain {text : List Char} (h : Plain text) :
    read (.inside fields last) (text ++ rest) = read (.inside fields (last ++ text)) rest := by
  induction text generalizing last with
  | nil => simp
  | cons c text ih =>
    obtain ⟨hc,h⟩ := plain_cons.mp h
    simp only [isPlain,Bool.and_eq_true,bne_iff_ne] at hc
    obtain ⟨⟨⟨hopen,hclose⟩,hquote⟩,hamp⟩ := hc
    rw [List.cons_append,read,if_neg hclose,if_neg hquote,if_neg (by simp [hopen,hamp]),ih h,
      List.append_assoc,List.singleton_append]

theorem read_value {name value text : List Char} (h : Written text) :
    read (.quoted fields name value) (text ++ '"' :: rest) =
      read (.inside (fields ++ [(name,value ++ text)]) []) rest := by
  induction text generalizing value with
  | nil => simp [read]
  | cons c text ih =>
    obtain ⟨⟨hangle,hquote,hentity⟩,h⟩ := h
    have hgood : ¬ (c = '<' ∨ (c = '&' ∧ ¬ StartsEntity (c :: (text ++ '"' :: rest)))) := by
      rintro (hc | ⟨hc,hno⟩)
      · exact hangle hc
      · exact hno ((hentity hc).append _)
    rw [List.cons_append,read,if_neg hquote,if_neg hgood,ih h,List.append_assoc,
      List.singleton_append]

/-- The attributes of a tag, with these values. -/
def attrs (fields : List (String × List Char)) : List Char := fields.flatMap fun f => attr f.1 f.2

/-- What a reader finds of an attribute: its value, and what stands in front of it. -/
def field (f : String × List Char) : List Char × List Char := (' ' :: f.1.toList ++ ['='],f.2)

/-- What a reader finds of a tag that begins in this way. -/
def foundTag (name : List Char) (fields : List (String × List Char)) (last : List Char) : Item :=
  match fields.map field with
  | [] => .tag [] (name ++ last)
  | first :: rest => .tag ((name ++ first.1,first.2) :: rest) last

theorem read_attr {f : String × List Char} (hname : Plain f.1.toList) (hvalue : Written f.2) :
    read (.inside fields last) (attr f.1 f.2 ++ rest) =
      read (.inside (fields ++ [(last ++ (field f).1,(field f).2)]) []) rest := by
  have hplain : Plain (' ' :: f.1.toList ++ ['=']) := by
    simp only [List.cons_append,plain_cons,plain_append,hname,plain_nil]
    decide
  have hsplit : attr f.1 f.2 ++ rest = (' ' :: f.1.toList ++ ['=']) ++ '"' :: (f.2 ++ '"' :: rest) := by
    simp [attr]
  rw [hsplit,read_plain hplain,read,if_neg (by decide),if_pos rfl,read_value hvalue]
  rfl

theorem read_attrs {l : List (String × List Char)} (hnames : ∀ f ∈ l, Plain f.1.toList)
    (hvalues : ∀ f ∈ l, Written f.2) :
    read (.inside fields []) (attrs l ++ rest) = read (.inside (fields ++ l.map field) []) rest := by
  induction l generalizing fields with
  | nil => simp [attrs]
  | cons f l ih =>
    obtain ⟨hname,hnames⟩ := List.forall_mem_cons.mp hnames
    obtain ⟨hvalue,hvalues⟩ := List.forall_mem_cons.mp hvalues
    have hsplit : attrs (f :: l) ++ rest = attr f.1 f.2 ++ (attrs l ++ rest) := by
      simp [attrs]
    rw [hsplit,read_attr hname hvalue,ih hnames hvalues]
    simp

end Tag

/-- A tag is read as its fields. -/
theorem reads_tag {name last : List Char} {fields : List (String × List Char)} (hname : Plain name)
    (hlast : Plain last) (hnames : ∀ f ∈ fields, Plain f.1.toList)
    (hvalues : ∀ f ∈ fields, Written f.2) :
    Reads ('<' :: name ++ attrs fields ++ last ++ ['>']) [foundTag name fields last] := by
  intro rest
  have hsplit : '<' :: name ++ attrs fields ++ last ++ ['>'] ++ rest =
      '<' :: (name ++ (attrs fields ++ (last ++ '>' :: rest))) := by simp
  rw [hsplit,read,if_pos rfl,read_plain hname,List.nil_append]
  cases fields with
  | nil =>
    rw [attrs,List.flatMap_nil,List.nil_append,read_plain hlast,read,if_pos rfl]
    simp [foundTag]
  | cons f fields =>
    obtain ⟨hname,hnames⟩ := List.forall_mem_cons.mp hnames
    obtain ⟨hvalue,hvalues⟩ := List.forall_mem_cons.mp hvalues
    have hattrs : attrs (f :: fields) = attr f.1 f.2 ++ attrs fields := by simp [attrs]
    rw [hattrs,List.append_assoc,read_attr hname hvalue,read_attrs hnames hvalues,
      read_plain hlast,read,if_pos rfl]
    simp [foundTag]

theorem reads_openTag (name : String) (fields : List (String × List Char))
    (hname : Plain name.toList) (hnames : ∀ f ∈ fields, Plain f.1.toList)
    (hvalues : ∀ f ∈ fields, Written f.2) :
    Reads (openTag name (fields.map fun f => attr f.1 f.2))
      [foundTag name.toList fields []] := by
  have htag := reads_tag hname plain_nil hnames hvalues
  have hattrs : (fields.map fun f => attr f.1 f.2).flatten = attrs fields := by
    rw [attrs,List.flatMap_def]
  rwa [openTag,tagStart,hattrs,← List.append_nil ('<' :: name.toList ++ attrs fields)]

theorem reads_closeTag (name : String) (hname : Plain name.toList) :
    Reads (closeTag name) [foundTag ('/' :: name.toList) [] []] := by
  have hslash : Plain ('/' :: name.toList) := plain_cons.mpr ⟨by decide,hname⟩
  have htag : Reads ('<' :: ('/' :: name.toList) ++ attrs [] ++ [] ++ ['>']) _ :=
    reads_tag hslash plain_nil (by simp) (by simp)
  simpa [closeTag,attrs] using htag

/-- Lines are read one by one, with the breaks between them. -/
theorem reads_lines {lines : List (List Char)} {items : List (List Item)}
    (h : List.Forall₂ Reads lines items) {lineBreak : List Char} (hbreak : Written lineBreak) :
    Reads (lines.flatMap (· ++ lineBreak)) (items.flatMap (· ++ lineBreak.map .char)) := by
  induction h with
  | nil => exact reads_nil
  | cons hline _ ih => exact (hline.append (reads_words hbreak)).append ih

end Blueprint.Svg
