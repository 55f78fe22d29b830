import Blueprint.Proofs.Stylesheet.Reading
import Blueprint.Proofs.Svg.StyleBlock

/-!
The tokens that the rules of a drawing use. A rule names a token where its value belongs, so the
sheet has to give the token one. Sheets laid over the standard one have all colors of the rules, and
a font is named only where the sheet has it.
-/

namespace Blueprint

namespace Svg

/-! ### Uses of tokens -/

section Uses

variable {sheet : Stylesheet} {text rest : List Char}

/-- A token of the sheet is named behind the first letter of its use. -/
def NamesToken (sheet : Stylesheet) (rest : List Char) : Prop :=
  ∃ token, (sheet.resolve token).isSome ∧ ')' ∉ token.toList ∧
    "ar(--".toList ++ token.toList ++ [')'] <+: rest

/-- Every use in the text is of a token of the sheet. The first letter of a use is nowhere else. -/
def UsesTokens (sheet : Stylesheet) : List Char → Prop
  | [] => True
  | c :: rest => (c = 'v' → NamesToken sheet rest) ∧ UsesTokens sheet rest

theorem UsesTokens.append (h : UsesTokens sheet text) (hrest : UsesTokens sheet rest) :
    UsesTokens sheet (text ++ rest) := by
  induction text with
  | nil => exact hrest
  | cons c text ih =>
    refine ⟨fun hc => ?_,ih h.2⟩
    obtain ⟨token,htoken,hparen,hstarts⟩ := h.1 hc
    exact ⟨token,htoken,hparen,hstarts.trans (List.prefix_append text rest)⟩

theorem usesTokens_of_notMem (h : 'v' ∉ text) : UsesTokens sheet text := by
  induction text with
  | nil => trivial
  | cons c text ih =>
    simp only [List.mem_cons,not_or] at h
    exact ⟨fun hc => absurd hc.symm h.1,ih h.2⟩

/-- What is used stands up to the parenthesis, and is a token of the sheet. -/
theorem UsesTokens.exists_token (h : UsesTokens sheet text) {before after : List Char}
    (htext : text = before ++ "var(--".toList ++ after) :
    ∃ token, (sheet.resolve token).isSome ∧ ')' ∉ token.toList ∧
      token.toList ++ [')'] <+: after := by
  induction text generalizing before with
  | nil => simp at htext
  | cons c text ih =>
    cases before with
    | nil =>
      obtain ⟨rfl,rfl⟩ : c = 'v' ∧ text = "ar(--".toList ++ after := List.cons.inj htext
      obtain ⟨token,htoken,hparen,hstarts⟩ := h.1 rfl
      rw [List.append_assoc] at hstarts
      exact ⟨token,htoken,hparen,(List.prefix_append_right_inj _).mp hstarts⟩
    | cons b before => exact ih h.2 (List.cons.inj htext).2

end Uses

/-! ### Rules -/

section Rules

variable {config : Config} {sheet : Stylesheet}

theorem v_notMem_number (x : Float) : 'v' ∉ number x := fun h =>
  absurd (forall_mem_number x 'v' h) (by decide)

theorem usesTokens_token {name : String} (hletters : 'v' ∉ name.toList ∧ ')' ∉ name.toList)
    (h : (sheet.resolve name).isSome) : UsesTokens sheet (Paint.token name).chars := by
  have hrest : 'v' ∉ "ar(--".toList ++ name.toList ++ [')'] := by
    simp only [List.mem_append,not_or]
    exact ⟨⟨by decide,hletters.1⟩,by decide⟩
  exact ⟨fun _ => ⟨name,h,hletters.2,List.prefix_refl _⟩,usesTokens_of_notMem hrest⟩

theorem Paint.InRules.usesTokens (h : ∀ token ∈ colorTokens, (sheet.resolve token).isSome)
    {paint : Paint} (hpaint : paint.InRules sheet) : UsesTokens sheet paint.chars := by
  have hcolors : ∀ name ∈ colorTokens, 'v' ∉ name.toList ∧ ')' ∉ name.toList := by decide
  have hwords : ∀ text ∈ ["none","square"], 'v' ∉ text.toList := by decide
  cases hpaint with
  | @color name hname => exact usesTokens_token (hcolors name hname) (h name hname)
  | font hfont => exact usesTokens_token (by decide) hfont
  | @word text htext => exact usesTokens_of_notMem (hwords text htext)
  | number x => exact usesTokens_of_notMem (v_notMem_number x)
  | pixels x =>
    exact (usesTokens_of_notMem (v_notMem_number x)).append (usesTokens_of_notMem (by decide))

theorem usesTokens_body (h : ∀ token ∈ colorTokens, (sheet.resolve token).isSome) :
    ∀ rule ∈ rules config sheet, UsesTokens sheet rule.body := by
  have hproperties : ∀ name ∈ propertyNames, 'v' ∉ name.toList := by decide
  intro rule hrule
  refine intercalate_induction trivial UsesTokens.append (usesTokens_of_notMem (by decide))
    fun text htext => ?_
  obtain ⟨s,hs,rfl⟩ := List.mem_map.mp htext
  obtain ⟨hproperty,hpaint⟩ := (settings_rules config sheet rule hrule).2 s hs
  have hname : UsesTokens sheet s.1.toList := usesTokens_of_notMem (hproperties s.1 hproperty)
  have hcolon : UsesTokens sheet [':',' '] := usesTokens_of_notMem (by decide)
  have hend : UsesTokens sheet [';'] := usesTokens_of_notMem (by decide)
  have hsplit : setting s = s.1.toList ++ ([':',' '] ++ s.2.chars) ++ [';'] := rfl
  rw [hsplit]
  exact (hname.append (hcolon.append (hpaint.usesTokens h))).append hend

/-- The block of tokens gives a token of the sheet its value. -/
theorem exists_definition {e : String × String} (h : e ∈ sheet.colors) :
    ∃ front back, tokenBlock sheet =
      ":root ".toList ++ ['\x7b','\n'] ++ front ++ definition e ++ back ++ [' ',' ','\x7d'] := by
  obtain ⟨front,back,hsplit⟩ := List.append_of_mem h
  refine ⟨front.flatMap definition,back.flatMap definition,?_⟩
  rw [tokenBlock_eq,hsplit]
  simp only [List.flatMap_append,List.flatMap_cons,List.append_assoc,List.cons_append,
    List.nil_append]

/-- The text of a style block in which every token that is used has a value. -/
structure StyleDefined (config : Config) (sheet : Stylesheet) : Prop where
  /-- The block of tokens stands in front of the rules. -/
  block : styleText config sheet =
    config.lineBreak ++ (tokenBlock sheet :: (rules config sheet).map (Rule.chars config)).flatMap
      (fun style => "  ".toList ++ style ++ config.lineBreak) ++ "  ".toList
  rule : ∀ rule ∈ rules config sheet, rule.chars config =
    '.' :: config.className rule.className ++ [' ','\x7b',' '] ++ rule.body ++ [' ','\x7d']
  /-- What a rule uses is a token with a value, and the block of tokens gives it that value. -/
  used : ∀ rule ∈ rules config sheet, ∀ before after,
    rule.body = before ++ "var(--".toList ++ after →
      ∃ token value, sheet.resolve token = some value ∧ ')' ∉ token.toList ∧
        token.toList ++ [')'] <+: after ∧
          ∃ front back, tokenBlock sheet = ":root ".toList ++ ['\x7b','\n'] ++ front ++
            definition (token,value) ++ back ++ [' ',' ','\x7d']

theorem styleDefined (h : ∀ token ∈ colorTokens, (sheet.resolve token).isSome) :
    StyleDefined config sheet where
  block := rfl
  rule := fun rule _ => rule.chars_eq config
  used := by
    intro rule hrule before after hbody
    obtain ⟨token,htoken,hparen,hstarts⟩ := (usesTokens_body h rule hrule).exists_token hbody
    obtain ⟨value,hvalue⟩ := Option.isSome_iff_exists.mp htoken
    exact ⟨token,value,hvalue,hparen,hstarts,
      exists_definition (sheet.distinct.mem_iff.mpr hvalue)⟩

end Rules

end Svg

/-! ### The laws -/

/-- How sheets are read and laid over one another. -/
structure Stylesheet.OverlayLaws : Prop where
  /-- A sheet that is read has its tokens and values as they stand in the text. -/
  read : ∀ text s, Stylesheet.ofText text = .ok s →
    ∃ t, Toml.read text = .ok (.table t) ∧ ColorsOf t s.colors
  assoc : ∀ a b c : Stylesheet, (a.overlay b).overlay c = a.overlay (b.overlay c)
  /-- Tokens keep their place, and new ones follow in order. -/
  tokens : ∀ a b : Stylesheet, (a.overlay b).colors.tokens =
    a.colors.tokens ++ b.colors.tokens.filter (· ∉ a.colors.tokens)
  /-- The last sheet that gives a token a value wins. -/
  last : ∀ (base : Stylesheet) (sheets : List Stylesheet) (token : String),
    (base.overlayAll sheets).resolve token = (base :: sheets).reverse.findSome? (·.resolve token)
  /-- A sheet over the standard one is read as the sheet that falls back on the standard one. -/
  fallback : ∀ (s : Stylesheet) (token : String),
    (s.resolve token).isSome ∨ (standard.resolve token).isSome →
      (standard.overlay s).resolve token = some (s.resolveOrStandard token)
  /-- In every drawing, the style block gives a value to each token that its rules use. -/
  defined : ∀ (layout : Layout Float) (config : Svg.Config) (sheets : List Stylesheet),
    Svg.StyleDefined config (standard.overlayAll sheets) ∧
    ∃ before after, (layout.svg config (standard.overlayAll sheets)).toList =
      before ++ Svg.openTag "style" [] ++ Svg.styleText config (standard.overlayAll sheets) ++
        Svg.closeTag "style" ++ after

theorem overlay_lawful : Stylesheet.OverlayLaws where
  read := fun _ _ h => Stylesheet.colorsOf_of_ofText h
  assoc := Stylesheet.overlay_assoc
  tokens := fun _ b => Palette.tokens_overlay b.distinct
  last := fun _ _ _ => Stylesheet.resolve_overlayAll
  fallback := fun _ _ h => Stylesheet.resolve_standard_overlay h
  defined := by
    intro layout config sheets
    have htokens : ∀ token ∈ Svg.colorTokens,
        ((Stylesheet.standard.overlayAll sheets).resolve token).isSome := by
      have hstandard : ∀ token ∈ Svg.colorTokens,
          (Stylesheet.standard.resolve token).isSome := by decide
      exact fun token htoken => Stylesheet.isSome_resolve_overlayAll (hstandard token htoken)
    exact ⟨Svg.styleDefined htokens,layout.beforeStyle config,layout.afterStyle config,
      svg_eq_around layout config _⟩

end Blueprint
