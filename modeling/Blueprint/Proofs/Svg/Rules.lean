import Blueprint.Proofs.Svg.Escape
import Blueprint.Svg.Theme

/-!
The rules of a drawing. Whatever the sheet, they set a few properties to the tokens of a drawing, to
words and to numbers; a sheet decides only whether they name a font.
-/

namespace Blueprint.Svg

variable {config : Config} {sheet : Stylesheet}

/-- The tokens that every drawing uses. -/
def colorTokens : List String :=
  ["room-fill","part-fill","wall","background","door","door-swing","window","object","label"]

/-- The classes that have a rule. -/
def ruleNames : List String :=
  ["room-fill","part-fill","wall","opening","door-leaf","door-swing","window-pane","object","label"]

def propertyNames : List String :=
  ["fill","stroke","stroke-width","stroke-linecap","font-size","font-family"]

/-- What the rules of a drawing set properties to. -/
inductive Paint.InRules (sheet : Stylesheet) : Paint → Prop where
  | color {name : String} (h : name ∈ colorTokens) : InRules sheet (.token name)
  /-- The font is named only where the sheet has one. -/
  | font (h : (sheet.resolve "font-family").isSome) : InRules sheet (.token "font-family")
  | word {text : String} (h : text ∈ ["none","square"]) : InRules sheet (.words text.toList)
  | number (x : Float) : InRules sheet (.words (number x))
  | pixels (x : Float) : InRules sheet (.words (Svg.number x ++ ['p','x']))

/-- A setting of the rules. -/
structure SettingInRules (sheet : Stylesheet) (s : String × Paint) : Prop where
  property : s.1 ∈ propertyNames
  paint : s.2.InRules sheet

theorem settingInRules_of {property : String} {paint : Paint} (h : paint.InRules sheet)
    (hproperty : property ∈ propertyNames) : SettingInRules sheet (property,paint) :=
  ⟨hproperty,h⟩

theorem settings_rules (config : Config) (sheet : Stylesheet) :
    ∀ rule ∈ rules config sheet,
      rule.className ∈ ruleNames ∧ ∀ s ∈ rule.settings, SettingInRules sheet s := by
  unfold rules
  split
  all_goals
    simp only [List.forall_mem_append,List.forall_mem_cons,noPaint]
    repeat' apply And.intro
    all_goals first
      | decide
      | exact settingInRules_of (.color (by decide)) (by decide)
      | exact settingInRules_of (.font (by assumption)) (by decide)
      | exact settingInRules_of (.number _) (by decide)
      | exact settingInRules_of (.pixels _) (by decide)
      | exact settingInRules_of (.word (by decide)) (by decide)
      | exact fun _ hs => absurd hs List.not_mem_nil

/-! ### The text of a rule -/

/-- What stands between the braces of a rule. -/
def Rule.body (r : Rule) : List Char := [' '].intercalate (r.settings.map setting)

theorem Rule.chars_eq (config : Config) (r : Rule) : r.chars config =
    '.' :: config.className r.className ++ [' ','\x7b',' '] ++ r.body ++ [' ','\x7d'] := rfl

theorem Paint.InRules.plain {paint : Paint} (h : paint.InRules sheet) : Plain paint.chars := by
  have hcolors : ∀ name ∈ colorTokens, Plain (Paint.token name).chars := by decide
  have hwords : ∀ text ∈ ["none","square"], Plain text.toList := by decide
  have hpixels : Plain ['p','x'] := by decide
  cases h with
  | @color name h => exact hcolors name h
  | font => decide
  | @word text h => exact hwords text h
  | number x => exact plain_number x
  | pixels x => exact plain_append.mpr ⟨plain_number x,hpixels⟩

/-- The rules of a drawing need no escaping. -/
theorem plain_rules (config : Config) (sheet : Stylesheet)
    (hstem : Plain (config.classStem.getD "").toList) :
    ∀ rule ∈ rules config sheet, Plain (rule.chars config) := by
  have hnames : ∀ name ∈ ruleNames, Plain name.toList := by decide
  have hproperties : ∀ name ∈ propertyNames, Plain name.toList := by decide
  intro rule hrule
  obtain ⟨hname,hsettings⟩ := settings_rules config sheet rule hrule
  have hbody : Plain rule.body := by
    refine plain_intercalate (by decide) fun text htext => ?_
    obtain ⟨s,hs,rfl⟩ := List.mem_map.mp htext
    obtain ⟨hproperty,hpaint⟩ := hsettings s hs
    simp [setting,hproperties s.1 hproperty,hpaint.plain,isPlain]
  simp [Rule.chars_eq,Config.className,hstem,hnames rule.className hname,hbody,isPlain]

end Blueprint.Svg
