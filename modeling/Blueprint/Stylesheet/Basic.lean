/-!
Stylesheets: what the colors of a drawing are called, and what they are. A drawing names its colors
by tokens, so that one plan can be drawn in several palettes. A sheet gives each token one value,
and a sheet laid over another one wins. Main statement: a token that is given a color has it, and
every other token keeps its own.
-/

namespace Blueprint

/-- Tokens with their values, in the order of their first definition. -/
abbrev Palette := List (String × String)

namespace Palette

def resolve : Palette → String → Option String
  | [], _ => none
  | (t,v) :: rest, token => if t = token then some v else resolve rest token

/-- Give a token a value. A token that is defined keeps its place. -/
def define (token value : String) : Palette → Palette
  | [] => [(token,value)]
  | (t,v) :: rest => if t = token then (t,value) :: rest else (t,v) :: define token value rest

/-- Define every token of the second palette in the first one. -/
def overlay (base upper : Palette) : Palette :=
  upper.foldl (fun palette (token,value) => palette.define token value) base

variable {p base upper : Palette} {token value : String}

theorem resolve_define (palette : Palette) (token value name : String) :
    (palette.define token value).resolve name =
      if token = name then some value else palette.resolve name := by
  induction palette with
  | nil => rfl
  | cons e rest ih =>
    obtain ⟨t,v⟩ := e
    by_cases h₁ : t = token <;> by_cases h₂ : token = name <;> simp_all [define,resolve]

theorem overlay_cons (base : Palette) (e : String × String) (upper : Palette) :
    base.overlay (e :: upper) = (base.define e.1 e.2).overlay upper := rfl

/-! ### Tokens -/

/-- The tokens that are defined, in order. -/
def tokens (p : Palette) : List String := p.map (·.1)

@[simp] theorem tokens_nil : tokens [] = [] := rfl

@[simp] theorem tokens_cons (e : String × String) (p : Palette) :
    tokens (e :: p) = e.1 :: p.tokens := rfl

theorem tokens_define : (p.define token value).tokens =
    if token ∈ p.tokens then p.tokens else p.tokens ++ [token] := by
  induction p with
  | nil => rfl
  | cons e rest ih =>
    by_cases h : e.1 = token
    · simp [define,h]
    · rw [define,if_neg h,tokens_cons,ih]
      simp only [tokens_cons,List.mem_cons,Ne.symm h,false_or]
      split <;> rfl

/-- Each token is defined once. -/
def Distinct (p : Palette) : Prop := p.tokens.Nodup

instance (p : Palette) : Decidable p.Distinct := inferInstanceAs (Decidable p.tokens.Nodup)

theorem distinct_nil : Distinct [] := List.nodup_nil

theorem Distinct.define (h : p.Distinct) : (p.define token value).Distinct := by
  rw [Distinct,tokens_define]
  split
  · exact h
  · rename_i hnot
    refine List.nodup_append.mpr ⟨h,by simp,fun a ha b hb hab => hnot ?_⟩
    rwa [← List.mem_singleton.mp hb,← hab]

theorem Distinct.overlay (h : base.Distinct) : (base.overlay upper).Distinct := by
  induction upper generalizing base with
  | nil => exact h
  | cons e rest ih => exact ih h.define

end Palette

structure Stylesheet where
  name : Option String
  description : Option String
  colors : Palette
  /-- Each token has one value. -/
  distinct : colors.Distinct := by decide
  deriving DecidableEq, Repr

namespace Stylesheet

/-- Dark walls on white, pale rooms, blue windows. -/
def standard : Stylesheet where
  name := none
  description := none
  colors :=
    [("background","#ffffff"),("wall","#2b2b2b"),("room-fill","#f7f4ee"),
     ("part-fill","#efe9de"),("door","#8d6e63"),("door-swing","#bcaaa4"),
     ("window","#4f8fc0"),("label","#333333"),("object","#c8c8c8"),
     ("font-family","sans-serif")]

def resolve (s : Stylesheet) (token : String) : Option String := s.colors.resolve token

/-- The token that stands in for one which is defined nowhere: the background for fills, the wall
for the rest. -/
def fallback (token : String) : String :=
  if "-fill".toList.isSuffixOf token.toList then "background" else "wall"

/-- The color of a token in a sheet, else in the standard one, else of the token that stands in. -/
def resolveOrStandard (s : Stylesheet) (token : String) : String :=
  ((s.resolve token).or ((standard.resolve token).or (standard.resolve (fallback token)))).getD ""

/-- Lay a sheet over another one. -/
def overlay (base upper : Stylesheet) : Stylesheet where
  name := upper.name.or base.name
  description := upper.description.or base.description
  colors := base.colors.overlay upper.colors
  distinct := base.distinct.overlay

/-- Lay sheets over a sheet, in order. -/
def overlayAll (base : Stylesheet) (sheets : List Stylesheet) : Stylesheet :=
  sheets.foldl overlay base

end Stylesheet

end Blueprint
