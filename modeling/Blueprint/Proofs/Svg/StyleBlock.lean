import Blueprint.Proofs.Stylesheet.Overlay
import Blueprint.Proofs.Svg.Markup
import Blueprint.Stylesheet.Read

/-!
The style block of a drawing. The tokens and values of a sheet stand in it as they are, so they may
hold markup. A reader finds the tags of the drawing, and no others, exactly if they hold none: the
signs that a sheet is written with neither make an entity nor break one, but for the semicolon
behind a value.
-/

namespace Blueprint

namespace Svg

/-! ### Inert text -/

section Inert

variable {text rest : List Char} {c : Char}

theorem inert_cons (hangle : c ≠ '<') (hamp : c ≠ '&') : Inert (c :: text) ↔ Inert text :=
  ⟨fun h => h.2,fun h => ⟨⟨hangle,fun hc => absurd hc hamp⟩,h⟩⟩

theorem Plain.inert_append (h : Plain text) : Inert (text ++ rest) ↔ Inert rest := by
  induction text with
  | nil => rfl
  | cons c text ih =>
    obtain ⟨hc,h⟩ := plain_cons.mp h
    simp only [isPlain,Bool.and_eq_true,bne_iff_ne] at hc
    rw [List.cons_append,inert_cons hc.1.1.1 hc.2,ih h]

/-- A text is inert if its parts are, where no entity goes on from one part to the next. -/
theorem inert_append_iff {next : List Char}
    (h : ∀ t, StartsEntity (t ++ rest) ↔ StartsEntity (t ++ next)) (hnext : Inert next) :
    Inert (text ++ rest) ↔ Inert (text ++ next) ∧ Inert rest := by
  induction text with
  | nil => simp [hnext]
  | cons c text ih =>
    have hentity := h (c :: text)
    simp only [List.cons_append] at hentity ⊢
    simp only [Inert,ih,hentity,and_assoc]

theorem inert_append_break (hc : ∀ e ∈ entities, c ∉ e) :
    Inert (text ++ c :: rest) ↔ Inert text ∧ Inert (c :: rest) := by
  have h (t : List Char) : StartsEntity (t ++ c :: rest) ↔ StartsEntity (t ++ []) := by
    rw [List.append_nil]
    exact ⟨fun h => h.of_append_break hc,fun h => h.append _⟩
  rw [inert_append_iff h trivial,List.append_nil]

theorem inert_append_semicolon :
    Inert (text ++ ';' :: c :: rest) ↔ Inert (text ++ [';']) ∧ Inert (c :: rest) := by
  have h (t : List Char) : StartsEntity (t ++ ';' :: c :: rest) ↔ StartsEntity (t ++ [';']) := by
    refine ⟨StartsEntity.of_append_semicolon,fun h => ?_⟩
    have hsplit : t ++ ';' :: c :: rest = (t ++ [';']) ++ c :: rest := by simp
    exact hsplit ▸ h.append _
  rw [inert_append_iff h (by simp [Inert]),inert_cons (by decide) (by decide)]

theorem inert_iff : Inert text ↔
    '<' ∉ text ∧ ∀ before after, text = before ++ '&' :: after → StartsEntity ('&' :: after) := by
  induction text with
  | nil => simp [Inert]
  | cons c text ih =>
    rw [Inert,ih]
    constructor
    · rintro ⟨⟨hangle,hamp⟩,hrest,hamps⟩
      refine ⟨by simp [Ne.symm hangle,hrest],fun before after htext => ?_⟩
      cases before with
      | nil =>
        obtain ⟨rfl,rfl⟩ := List.cons.inj htext
        exact hamp rfl
      | cons b before => exact hamps before after (List.cons.inj htext).2
    · rintro ⟨hangle,hamps⟩
      simp only [List.mem_cons,not_or] at hangle
      obtain ⟨hc,hrest⟩ := hangle
      refine ⟨⟨Ne.symm hc,?_⟩,hrest,fun before after htext => ?_⟩
      · rintro rfl
        exact hamps [] text rfl
      · exact hamps (c :: before) after (by rw [htext,List.cons_append])

end Inert

/-! ### What is written -/

section Block

variable {config : Config} {sheet : Stylesheet} {rest : List Char}

/-- How a token is given its value. -/
def definition (e : String × String) : List Char :=
  "    --".toList ++ e.1.toList ++ ':' :: ' ' :: e.2.toList ++ [';','\n']

theorem tokenBlock_eq (sheet : Stylesheet) : tokenBlock sheet =
    ":root ".toList ++ '\x7b' :: '\n' :: sheet.colors.flatMap definition ++ [' ',' ','\x7d'] := by
  unfold tokenBlock
  rfl

/-- What stands between the tags of the style block. -/
def styleText (config : Config) (sheet : Stylesheet) : List Char :=
  config.lineBreak ++
    (theme config sheet).flatMap (fun style => "  ".toList ++ style ++ config.lineBreak) ++
      "  ".toList

/-- The token and its value in a sheet hold no markup, the value with the semicolon behind it. -/
def InertEntry (e : String × String) : Prop := Inert e.1.toList ∧ Inert (e.2.toList ++ [';'])

theorem inert_line {gap token value : List Char} (hgap : Plain gap) :
    Inert (gap ++ token ++ ':' :: ' ' :: value ++ [';','\n'] ++ rest) ↔
      (Inert token ∧ Inert (value ++ [';'])) ∧ Inert rest := by
  have hsplit : gap ++ token ++ ':' :: ' ' :: value ++ [';','\n'] ++ rest =
      gap ++ (token ++ ':' :: ' ' :: (value ++ ';' :: '\n' :: rest)) := by simp
  rw [hsplit,hgap.inert_append,inert_append_break (by decide),inert_cons (by decide) (by decide),
    inert_cons (by decide) (by decide),inert_append_semicolon,inert_cons (by decide) (by decide),
    and_assoc]

theorem inert_definition_append (e : String × String) :
    Inert (definition e ++ rest) ↔ InertEntry e ∧ Inert rest := by
  have hgap : Plain "    --".toList := by decide
  exact inert_line hgap

theorem inert_definitions_append (palette : Palette) :
    Inert (palette.flatMap definition ++ rest) ↔ (∀ e ∈ palette, InertEntry e) ∧ Inert rest := by
  induction palette with
  | nil => simp
  | cons e palette ih =>
    rw [List.flatMap_cons,List.append_assoc,inert_definition_append,ih,List.forall_mem_cons,
      and_assoc]

theorem inert_tokenBlock_append (h : Plain rest) :
    Inert (tokenBlock sheet ++ rest) ↔ ∀ e ∈ sheet.colors, InertEntry e := by
  have hsplit : tokenBlock sheet ++ rest = (":root ".toList ++ ['\x7b','\n']) ++
      (sheet.colors.flatMap definition ++ ([' ',' ','\x7d'] ++ rest)) := by
    simp [tokenBlock_eq]
  have hopen : Plain (":root ".toList ++ ['\x7b','\n']) := by decide
  have hclose : Plain ([' ',' ','\x7d'] ++ rest) := plain_append.mpr ⟨by decide,h⟩
  rw [hsplit,hopen.inert_append,inert_definitions_append]
  exact and_iff_left hclose.written.inert

/-- The rules of a drawing need no escaping, so all depends on the tokens and values. -/
theorem inert_styleText_iff (hstem : Plain (config.classStem.getD "").toList) :
    Inert (styleText config sheet) ↔ ∀ e ∈ sheet.colors, InertEntry e := by
  have hgap : Plain "  ".toList := by decide
  have hbreak := Canvas.plain_lineBreak config
  have hrules : Plain (((rules config sheet).map (Rule.chars config)).flatMap
      fun style => "  ".toList ++ style ++ config.lineBreak) := by
    intro c hc
    obtain ⟨style,hstyle,hc⟩ := List.mem_flatMap.mp hc
    obtain ⟨rule,hrule,rfl⟩ := List.mem_map.mp hstyle
    have hline := plain_append.mpr
      ⟨plain_append.mpr ⟨hgap,plain_rules config sheet hstem rule hrule⟩,hbreak⟩
    exact hline c hc
  have hsplit : styleText config sheet = (config.lineBreak ++ "  ".toList) ++
      (tokenBlock sheet ++ (config.lineBreak ++ (((rules config sheet).map
        (Rule.chars config)).flatMap (fun style => "  ".toList ++ style ++ config.lineBreak) ++
          "  ".toList))) := by
    simp only [styleText,theme,List.flatMap_cons,List.append_assoc]
  rw [hsplit,(plain_append.mpr ⟨hbreak,hgap⟩).inert_append]
  exact inert_tokenBlock_append
    (plain_append.mpr ⟨hbreak,plain_append.mpr ⟨hrules,hgap⟩⟩)

theorem inert_theme (hstem : Plain (config.classStem.getD "").toList)
    (h : ∀ e ∈ sheet.colors, InertEntry e) : ∀ style ∈ theme config sheet, Inert style := by
  refine List.forall_mem_cons.mpr ⟨?_,fun style hstyle => ?_⟩
  · rw [← List.append_nil (tokenBlock sheet)]
    exact (inert_tokenBlock_append plain_nil).mpr h
  · obtain ⟨rule,hrule,rfl⟩ := List.mem_map.mp hstyle
    exact (plain_rules config sheet hstem rule hrule).written.inert

end Block

/-! ### What is read -/

/-- Whether the reader is in a tag. -/
def Place.openTags : Place → Nat
  | outside => 0
  | _ => 1

/-- Every angle in a text that is read begins a tag. -/
theorem length_tags_of_read {text : List Char} {p : Place} {items : List Item}
    (h : read p text = some items) : (tags items).length = text.count '<' + p.openTags := by
  induction text generalizing p items with
  | nil =>
    cases p with
    | outside =>
      obtain rfl : [] = items := Option.some.inj h
      rfl
    | _ => cases h
  | cons c text ih =>
    have htag (fields : List (List Char × List Char)) (last : List Char) (rest : List Item) :
        (tags (.tag fields last :: rest)).length = (tags rest).length + 1 := rfl
    cases p with
    | outside =>
      simp only [read] at h
      split_ifs at h with hangle
      · rw [ih h,hangle,List.count_cons_self]
        rfl
      · obtain ⟨rest,hrest,rfl⟩ := Option.map_eq_some_iff.mp h
        rw [tags_cons_char,ih hrest,List.count_cons_of_ne hangle]
    | inside fields last =>
      simp only [read] at h
      split_ifs at h with hclose hquote hbad
      · obtain ⟨rest,hrest,rfl⟩ := Option.map_eq_some_iff.mp h
        rw [htag,ih hrest,hclose,List.count_cons_of_ne (by decide)]
        rfl
      · rw [ih h,hquote,List.count_cons_of_ne (by decide)]
        rfl
      · rw [ih h,List.count_cons_of_ne fun hc => hbad (Or.inl hc)]
        rfl
    | quoted fields name value =>
      simp only [read] at h
      split_ifs at h with hquote hbad
      · rw [ih h,hquote,List.count_cons_of_ne (by decide)]
        rfl
      · rw [ih h,List.count_cons_of_ne fun hc => hbad (Or.inl hc)]
        rfl

end Svg

open Svg (Inert InertEntry Item Plain styleText)

/-- The drawing in front of its style block. -/
def Layout.beforeStyle (layout : Layout Float) (config : Svg.Config) : List Char :=
  ((if config.standalone then [Svg.Canvas.declaration] else []) ++
    [Svg.Canvas.rootTag config layout.bounds]).flatMap (· ++ config.lineBreak) ++ "  ".toList

/-- The drawing behind its style block. -/
def Layout.afterStyle (layout : Layout Float) (config : Svg.Config) : List Char :=
  config.lineBreak ++
    (Svg.Canvas.lines config 1 (layout.steps config)).flatMap (· ++ config.lineBreak) ++
      Svg.closeTag "svg"

theorem svg_eq_around (layout : Layout Float) (config : Svg.Config) (sheet : Stylesheet) :
    (layout.svg config sheet).toList =
      layout.beforeStyle config ++ Svg.openTag "style" [] ++ styleText config sheet ++
        Svg.closeTag "style" ++ layout.afterStyle config := by
  have htext : (layout.svg config sheet).toList =
      (layout.canvas config sheet).document layout.bounds := String.toList_ofList
  rw [htext]
  simp [Svg.Canvas.document,Layout.canvas,Svg.Canvas.styleLines,Layout.beforeStyle,
    Layout.afterStyle,styleText,Svg.theme,List.flatMap_map]
  rfl

/-- The elements of a drawing do not depend on its sheet. -/
theorem tags_canvas (layout : Layout Float) (config : Svg.Config) (sheet : Stylesheet) :
    Svg.tags ((layout.canvas config sheet).items layout.bounds) =
      Svg.tags (layout.items config) := by
  rw [Layout.items,Svg.Canvas.tags_items,Svg.Canvas.tags_items]
  rfl

theorem inertEntry_standard : ∀ e ∈ Stylesheet.standard.colors, InertEntry e := by
  have hplain : ∀ e ∈ Stylesheet.standard.colors,
      Plain e.1.toList ∧ Plain (e.2.toList ++ [';']) := by decide +kernel
  exact fun e he => ⟨(hplain e he).1.written.inert,(hplain e he).2.written.inert⟩

/-- A drawing that is read as the tags of the drawing has no angle in its style block besides. -/
theorem inert_of_read {layout : Layout Float} {config : Svg.Config} {sheet : Stylesheet}
    (hstem : Plain (config.classStem.getD "").toList) {items : List Item}
    (hread : Svg.read .outside (layout.svg config sheet).toList = some items)
    (htags : Svg.tags items = Svg.tags (layout.items config)) :
    Inert (styleText config sheet) := by
  have hplain := (Svg.inert_iff.mp ((Svg.inert_styleText_iff hstem).mpr inertEntry_standard)).1
  -- Every angle begins a tag, so there are as many of them as with the standard sheet.
  have hlength := Svg.length_tags_of_read hread
  have hlength' := Svg.length_tags_of_read (reads_svg layout hstem).read
  rw [svg_eq_around] at hread hlength hlength'
  simp only [List.count_append,List.count_eq_zero.mpr hplain] at hlength hlength'
  refine Svg.inert_iff.mpr ⟨?_,fun before after htext => ?_⟩
  · rw [← List.count_eq_zero]
    rw [htags] at hlength
    omega
  · have hsplit : layout.beforeStyle config ++ Svg.openTag "style" [] ++ styleText config sheet ++
        Svg.closeTag "style" ++ layout.afterStyle config =
          (layout.beforeStyle config ++ Svg.openTag "style" [] ++ before) ++ '&' ::
            (after ++ '<' :: ('/' :: "style".toList ++ ['>'] ++ layout.afterStyle config)) := by
      simp [htext,Svg.closeTag]
    exact Svg.StartsEntity.of_append_angle (Svg.startsEntity_of_read hread hsplit)

/-- A drawing is read as its own elements exactly if nothing in its style block is read as one. -/
theorem read_eq_own_iff {layout : Layout Float} {config : Svg.Config} {sheet : Stylesheet}
    (hstem : Plain (config.classStem.getD "").toList) :
    (∃ items, Svg.read .outside (layout.svg config sheet).toList = some items ∧
      Svg.Nested [] items ∧ Svg.tags items = Svg.tags (layout.items config)) ↔
        Inert (styleText config sheet) := by
  constructor
  · rintro ⟨items,hread,_,htags⟩
    exact inert_of_read hstem hread htags
  · intro h
    have hstyles := Svg.inert_theme hstem ((Svg.inert_styleText_iff hstem).mp h)
    have hnested := Svg.Canvas.nested_items (layout.canvas config sheet)
      (balanced_steps layout config) layout.bounds
    exact ⟨_,(reads_styled layout hstem hstyles).read,hnested,tags_canvas layout config sheet⟩

/-- What the sheet of a drawing can do to it. -/
structure Layout.Styled (layout : Layout Float) (config : Svg.Config)
    (sheets : List Stylesheet) : Prop where
  /-- A sheet shows in the style block only. -/
  written : ∃ before after, ∀ sheet, (layout.svg config sheet).toList =
    before ++ Svg.openTag "style" [] ++ styleText config sheet ++ Svg.closeTag "style" ++ after
  /-- The block has no angle and no stray ampersand exactly if no token and no value that stands in
  the end has any. -/
  inert_iff : Inert (styleText config (Stylesheet.standard.overlayAll sheets)) ↔
    ∀ token value, (Stylesheet.standard.overlayAll sheets).resolve token = some value →
      Inert token.toList ∧ Inert (value.toList ++ [';'])
  /-- No sheet that is itself free of them brings any in. -/
  inert : (∀ s ∈ sheets, ∀ e ∈ s.colors, InertEntry e) →
    Inert (styleText config (Stylesheet.standard.overlayAll sheets))
  /-- The drawing is well-formed and has its own elements, and no others, exactly if the block has
  none of them. -/
  kept_iff : (∃ items,
      Svg.read .outside (layout.svg config (Stylesheet.standard.overlayAll sheets)).toList =
        some items ∧ Svg.Nested [] items ∧ Svg.tags items = Svg.tags (layout.items config)) ↔
    Inert (styleText config (Stylesheet.standard.overlayAll sheets))

theorem svg_styled (layout : Layout Float) {config : Svg.Config}
    (hstem : Plain (config.classStem.getD "").toList) (sheets : List Stylesheet) :
    layout.Styled config sheets := by
  have hdistinct := (Stylesheet.standard.overlayAll sheets).distinct
  have hentries : Inert (styleText config (Stylesheet.standard.overlayAll sheets)) ↔
      ∀ e ∈ (Stylesheet.standard.overlayAll sheets).colors, InertEntry e :=
    Svg.inert_styleText_iff hstem
  refine ⟨?_,?_,?_,?_⟩
  · refine ⟨layout.beforeStyle config,layout.afterStyle config,fun sheet => ?_⟩
    exact svg_eq_around layout config sheet
  · rw [hentries]
    constructor
    · exact fun h token value hvalue => h (token,value) (hdistinct.mem_iff.mpr hvalue)
    · exact fun h e he => h e.1 e.2 (hdistinct.mem_iff.mp he)
  · refine fun h => hentries.mpr fun e he => ?_
    rcases Stylesheet.mem_overlayAll he with he | ⟨s,hs,he⟩
    · exact inertEntry_standard e he
    · exact h s hs e he
  · exact read_eq_own_iff hstem

/-- A sheet with a value that ends the style block and begins an element of its own. -/
def forgedSheet : Stylesheet where
  name := none
  description := none
  colors := [("wall","</style><script>")]

def blackWalls : Stylesheet where
  name := none
  description := none
  colors := [("wall","#000000")]

/-- The later sheet takes the markup away again. -/
theorem svg_styled_overruled :
    Plain (Svg.Config.standard.classStem.getD "").toList ∧
    (Stylesheet.standard.overlayAll [forgedSheet,blackWalls]).resolve "wall" = some "#000000" ∧
    (forgedPlan.layout .standard).Styled .standard [forgedSheet,blackWalls] :=
  ⟨by decide,by decide,svg_styled (forgedPlan.layout .standard) (by decide) _⟩

/-- A sheet that is read off a text breaks every drawing. -/
theorem style_ended_forged :
    Stylesheet.ofText "[colors]\nwall = \"</style><script>\"\n".toList = .ok forgedSheet ∧
    ¬ Inert (styleText .standard (Stylesheet.standard.overlayAll [forgedSheet])) ∧
    ∀ layout : Layout Float, ¬ ∃ items,
      Svg.read .outside
        (layout.svg .standard (Stylesheet.standard.overlayAll [forgedSheet])).toList =
          some items ∧ Svg.Nested [] items ∧
        Svg.tags items = Svg.tags (layout.items .standard) := by
  have hstem : Plain (Svg.Config.standard.classStem.getD "").toList := by decide
  -- Sheets can be compared, errors cannot.
  have hread : (Stylesheet.ofText
      "[colors]\nwall = \"</style><script>\"\n".toList).toOption = some forgedSheet := by
    decide +kernel
  have hwall : ("wall","</style><script>") ∈
      (Stylesheet.standard.overlayAll [forgedSheet]).colors := by decide
  have hbroken : ¬ Inert (styleText .standard (Stylesheet.standard.overlayAll [forgedSheet])) :=
    fun h => ((Svg.inert_styleText_iff hstem).mp h _ hwall).2.1.1 rfl
  refine ⟨?_,hbroken,fun layout h => hbroken ((read_eq_own_iff hstem).mp h)⟩
  cases hsheet : Stylesheet.ofText "[colors]\nwall = \"</style><script>\"\n".toList with
  | ok sheet =>
    rw [hsheet] at hread
    exact congrArg _ (Option.some.inj hread)
  | error e =>
    rw [hsheet] at hread
    cases hread

end Blueprint
